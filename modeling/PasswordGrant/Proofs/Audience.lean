import PasswordGrant.Proofs.ResponseShape

/-!
# How an audience is stated

A server states the audience of a token in one of several ways: as one text, as a list, as `null`, or
not at all. Whatever else its answer holds and wherever the audience stands in it, a text means the list
of this text alone, and `null` and a missing audience mean the empty list.

* `Surroundings` : an object with some members left open;
* `SameAudience`, `parse_of_sameAudience` : values that state the same audience;
* `SameButAudience` : fields that differ at most in whether an empty audience was read or none, with one
  member more and all further members;
* `parse_of_missing` : an audience that is missing.
-/

namespace PasswordGrant.Introspection

open Json Json.Written

theorem required_eq_false : ∀ f ∈ schema.fields, f.required = false := by decide

/-! ### Audiences that are the same -/

def audienceField : Field := .plain "aud" .audience

theorem field?_aud : schema.field? "aud" = some audienceField := by decide

/-- Two ways to state an audience: a text and a list of this text alone, in whatever letters, and `null`
and an empty list. -/
inductive SameAudience : Value → Value → Prop where
  | single {ls ls' : List Letter} (h : denotedText? ls = denotedText? ls') (inside before after : Blanks) :
      SameAudience (.text ls) (.array inside [⟨before, .text ls', after⟩])
  | none (inside : Blanks) : SameAudience .null (.array inside [])

theorem SameAudience.slot?_eq {v w : Value} (h : SameAudience v w) :
    Kind.audience.slot? v = Kind.audience.slot? w := by
  cases h with
  | single h inside before after =>
    simp only [Kind.slot?, Value.audience?, Value.texts?, Value.text?, List.mapM_cons, List.mapM_nil, h]
    cases denotedText? _ <;> rfl
  | none inside => rfl

/-- What stands in a document beside some members of its object. -/
structure Surroundings where
  before : Blanks
  inside : Blanks
  front : List Member
  back : List Member
  after : Blanks

def Surroundings.around (o : Surroundings) (ms : List Member) : Document :=
  ⟨o.before, .object o.inside (o.front ++ ms ++ o.back), o.after⟩

variable {o : Surroundings} {m m' : Member}

theorem toOption_parse_around (o : Surroundings) (ms : List Member) :
    (parse (o.around ms).text).toOption
      = (gather? schema.step? [] (o.front ++ ms ++ o.back)).map ofSlots := by
  rw [parse, toOption_map, Surroundings.around, Schema.toOption_parse_object,
    Schema.slots?_eq_gather? required_eq_false]

theorem parse_of_sameAudience (hm : denotedText? m.name = some "aud")
    (hm' : denotedText? m'.name = some "aud") (h : SameAudience m.value m'.value) :
    (parse (o.around [m]).text).toOption = (parse (o.around [m']).text).toOption := by
  have hstep : ∀ slots, schema.step? slots "aud" m.value = schema.step? slots "aud" m'.value := by
    intro slots
    have hslot : audienceField.kind.slot? m.value = audienceField.kind.slot? m'.value := h.slot?_eq
    rw [Schema.step?, Schema.step?, field?_aud]
    simp only [hslot]
  have hgather : ∀ slots, gather? schema.step? slots [m] = gather? schema.step? slots [m'] := by
    intro slots
    rw [gather?, gather?, hm, hm', Option.bind_some, Option.bind_some, hstep]
  rw [toOption_parse_around, toOption_parse_around, gather?_append, gather?_append, gather?_append,
    gather?_append]
  simp only [hgather]

/-! ### Missing audiences -/

/-- Fields that differ at most in whether an empty audience was read or none. -/
structure SameButAudience (slots slots' : Slots) : Prop where
  others : ∀ name, name ≠ "aud" → slots.lookup name = slots'.lookup name
  audience : slots.texts "aud" = slots'.texts "aud"

theorem SameButAudience.ofSlots_eq {slots slots' : Slots} (h : SameButAudience slots slots') :
    ofSlots slots = ofSlots slots' := by
  have hget : ∀ name, name ≠ "aud" → slots.get name = slots'.get name := by
    intro name hname
    rw [Slots.get, Slots.get, h.others name hname]
  simp [ofSlots, Slots.flag, Slots.integer?, Slots.text?, h.audience, hget]

/-- A member that is no audience adds the same to both of them, or is refused by both. -/
theorem SameButAudience.step? {slots slots' : Slots} (h : SameButAudience slots slots') {name : String}
    (hname : name ≠ "aud") (v : Value) :
    Option.Rel SameButAudience (schema.step? slots name v) (schema.step? slots' name v) := by
  rw [Schema.step?, Schema.step?]
  cases hfield : schema.field? name with
  | none => exact .some h
  | some f =>
    have hf : f.name = name := by
      have hplain : ∀ f ∈ schema.fields, f.spellings = [] := by decide
      have hmem : f ∈ schema.fields := List.mem_of_find?_eq_some hfield
      exact Field.eq_of_goesBy (hplain f hmem) ((schema_isDistinct.field? hmem name).mpr hfield)
    simp only [hf, h.others name hname]
    split
    · exact .none
    · cases f.kind.slot? v with
      | none => exact .none
      | some slot =>
        refine .some ⟨fun other hother => ?_, ?_⟩
        · rw [List.lookup_append, List.lookup_append, h.others other hother]
        · have haudience := h.audience
          have hsingle : List.lookup "aud" [(name, slot)] = none := by simp [hname.symm]
          rw [Slots.texts, Slots.texts, Slots.get, Slots.get] at haudience ⊢
          rw [List.lookup_append, List.lookup_append, hsingle, Option.or_none, Option.or_none]
          exact haudience

/-- So do further members that are no audience, one after the other. -/
theorem SameButAudience.gather? {slots slots' : Slots} (h : SameButAudience slots slots')
    {ms : List Member} (hms : ∀ m ∈ ms, denotedText? m.name ≠ some "aud") :
    (Json.gather? schema.step? slots ms).map ofSlots
      = (Json.gather? schema.step? slots' ms).map ofSlots := by
  induction ms generalizing slots slots' with
  | nil => exact congrArg some h.ofSlots_eq
  | cons m ms ih =>
    rw [List.forall_mem_cons] at hms
    rw [Json.gather?, Json.gather?]
    cases hname : denotedText? m.name with
    | none => rfl
    | some name =>
      have hother : name ≠ "aud" := fun heq => hms.1 (heq ▸ hname)
      rw [Option.bind_some, Option.bind_some]
      have hstep := h.step? hother m.value
      generalize schema.step? slots name m.value = next, schema.step? slots' name m.value = next' at hstep
      cases hstep with
      | none => rfl
      | some hmore => exact ih hmore hms.2

theorem lookup_aud_of_gather? {ms : List Member} (hms : ∀ m ∈ ms, denotedText? m.name ≠ some "aud")
    {slots : Slots} (h : gather? schema.step? [] ms = some slots) : slots.lookup "aud" = none := by
  have haudience : audienceField ∈ schema.fields := by decide
  have hnone : audienceField.valuesIn ms = [] := by
    refine Field.valuesIn_eq_nil fun m hm name hname => Bool.eq_false_iff.mpr fun hgoes => ?_
    have haud : audienceField.name = name := Field.eq_of_goesBy rfl hgoes
    exact hms m hm (hname.trans (congrArg some haud.symm))
  have hheld := schema_isDistinct.lookup_gather? h haudience
  rw [hnone] at hheld
  exact (Option.some.inj hheld).symm

/-- An empty audience is as good as none. -/
theorem parse_of_missing (hm : denotedText? m.name = some "aud")
    (hslot : Kind.audience.slot? m.value = some (.texts []))
    (hother : ∀ n ∈ o.front ++ o.back, denotedText? n.name ≠ some "aud") :
    (parse (o.around []).text).toOption = (parse (o.around [m]).text).toOption := by
  rw [List.forall_mem_append] at hother
  rw [toOption_parse_around, toOption_parse_around, List.append_nil, List.append_assoc,
    gather?_append, gather?_append]
  cases hfront : gather? schema.step? [] o.front with
  | none => rfl
  | some slots =>
    have hfresh := lookup_aud_of_gather? hother.1 hfront
    have hstep : schema.step? slots "aud" m.value = some (slots ++ [("aud", .texts [])]) := by
      rw [Schema.step?, field?_aud]
      simp only [audienceField, Field.plain, hfresh, hslot, Option.isSome_none, Bool.false_eq_true,
        if_false, Option.map_some]
    have hsame : SameButAudience slots (slots ++ [("aud", .texts [])]) := by
      refine ⟨fun name hname => ?_, ?_⟩
      · have hsingle : List.lookup name [("aud", Slot.texts [])] = none := by simp [hname]
        rw [List.lookup_append, hsingle, Option.or_none]
      · rw [Slots.texts, Slots.texts, Slots.get, Slots.get, List.lookup_append, hfresh]
        rfl
    rw [Option.bind_some, Option.bind_some, List.singleton_append, gather?, hm, Option.bind_some, hstep,
      Option.bind_some]
    exact hsame.gather? hother.2

end PasswordGrant.Introspection
