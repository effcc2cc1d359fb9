import PasswordGrant.Proofs.Json.Records
import PasswordGrant.Proofs.Json.Rendering

/-!
# Records that are written and read again

A record is written as an object with a member for each of its fields, in the order of the schema. What
is written for a field shows what the field holds, and what a field holds is read again, so the record
comes back as it was. The writer and the readers meet at the values that are written for fields: on one
side they have a compact text, and on the other they hold what they were written for.

* `Kind.Writes`, `Schema.Writes` : what is written for fields;
* `Kind.Writes.kept`, `Kind.Writes.slot?_eq` : the two sides of a field;
* `Schema.parse_compact` : records come back.
-/

namespace PasswordGrant.Json

open Written

/-! ### Fields -/

/-- The values that are written for a field of a kind: `null` for nothing, and a list where there may be
one text or several. -/
inductive Kind.Writes : Kind → Slot → Json → Prop where
  | text (s : String) : Writes .text (.text s) (.text s)
  | optionalText (s : String) : Writes .optionalText (.text s) (.text s)
  | noText : Writes .optionalText .absent .null
  | optionalNatural {n : Nat} (h : n < 0x10000000000000000) :
      Writes .optionalNatural (.natural n) (.number (.natural n))
  | noNatural : Writes .optionalNatural .absent .null
  | optionalInteger {x : Number} {i : Int} (h : x.Kept) (hx : x.toInt? = some i) :
      Writes .optionalInteger (.integer i) (.number x)
  | noInteger : Writes .optionalInteger .absent .null
  | flag (b : Bool) : Writes .flag (.flag b) (.bool b)
  | texts (l : List String) : Writes .texts (.texts l) (.array (l.map .text))
  | audience (l : List String) : Writes .audience (.texts l) (.array (l.map .text))

section

variable {kind : Kind} {slot : Slot} {j : Json} {v : Value}

theorem kept_texts (l : List String) : (Json.array (l.map .text)).Kept := by
  refine .array fun j hj => ?_
  obtain ⟨s, -, rfl⟩ := List.mem_map.mp hj
  exact .text s

theorem Kind.Writes.kept (h : kind.Writes slot j) : j.Kept := by
  cases h with
  | text s => exact .text s
  | optionalText s => exact .text s
  | optionalNatural h => exact .number (.natural h)
  | optionalInteger h _ => exact .number h
  | flag b => exact .bool b
  | texts l => exact kept_texts l
  | audience l => exact kept_texts l
  | noText => exact .null
  | noNatural => exact .null
  | noInteger => exact .null

theorem mapM_text?_map (l : List String) : (l.map Json.text).mapM Json.text? = some l := by
  refine mapM_eq_some ?_
  induction l with
  | nil => exact .nil
  | cons s l ih => exact .cons rfl ih

theorem Written.Shows.texts?_eq {l : List String} (h : Shows v (.array (l.map .text))) :
    v.texts? = some l := by
  cases h with
  | array hitems => exact hitems.mapM_text? (mapM_text?_map l)

theorem Written.Shows.number?_eq {x : Json.Number} (h : Shows v (.number x)) (hx : x.Kept) :
    v.number? = some x := by
  cases h with
  | number hshows =>
    rcases hshows with hkept | ⟨-, f, rfl⟩
    · exact hkept
    · cases hx

theorem Written.Value.kept_of_number? {x : Json.Number} (h : v.number? = some x) : x.Kept := by
  cases v with
  | number n => exact n.kept_of_kept? h
  | _ => cases h

theorem Written.Shows.optional_eq {α : Type} {held : Value → Option α} {x : α} (h : Shows v j)
    (hj : j ≠ .null) (hx : held v = some x) : Value.optional held v = some (some x) := by
  have hne : v ≠ .null := by
    rintro rfl
    cases h
    exact hj rfl
  rw [Value.optional_of_ne hne, hx, Option.map_some]

/-- What is written for a field holds what it was written for. -/
theorem Kind.Writes.slot?_eq (h : kind.Writes slot j) (hv : Shows v j) : kind.slot? v = some slot := by
  cases h with
  | text s =>
    rw [Kind.slot?, hv.text?_eq]
    rfl
  | optionalText s =>
    rw [Kind.slot?, hv.optional_eq (by simp) hv.text?_eq]
    rfl
  | @optionalNatural n h =>
    have hheld : v.number?.bind Number.toNat? = some n := by
      rw [hv.number?_eq (.natural h)]
      rfl
    rw [Kind.slot?, hv.optional_eq (by simp) hheld]
    rfl
  | @optionalInteger x i h hx =>
    have hheld : v.number?.bind Number.toInt? = some i := by
      rw [hv.number?_eq h]
      exact hx
    rw [Kind.slot?, hv.optional_eq (by simp) hheld]
    rfl
  | flag b =>
    cases hv
    rfl
  | texts l =>
    rw [Kind.slot?, hv.texts?_eq]
    rfl
  | audience l =>
    have htexts := hv.texts?_eq
    cases hv
    rw [Kind.slot?, Value.audience?.eq_def]
    exact congrArg (Option.map Slot.texts) htexts
  | noText =>
    cases hv
    rfl
  | noNatural =>
    cases hv
    rfl
  | noInteger =>
    cases hv
    rfl

end

/-! ### Records -/

/-- What is written for fields in order: a member of its name for each of them. -/
inductive Schema.Writes : List Field → Slots → List (String × Json) → Prop where
  | nil : Writes [] [] []
  | cons {f : Field} {fields : List Field} {slot : Slot} {slots : Slots} {j : Json}
      {members : List (String × Json)} (h : f.kind.Writes slot j) (hmore : Writes fields slots members) :
      Writes (f :: fields) ((f.name, slot) :: slots) ((f.name, j) :: members)

section

variable {schema : Schema} {fields : List Field} {slots : Slots} {members : List (String × Json)}

theorem Schema.Writes.kept (h : Schema.Writes fields slots members) : ∀ m ∈ members, m.2.Kept := by
  induction h with
  | nil => nofun
  | cons hfirst _ ih =>
    rw [List.forall_mem_cons]
    exact ⟨hfirst.kept, ih⟩

/-- Members that were written for fields are gathered behind what was read before, field by field, if the
names of the fields differ. -/
theorem Schema.Writes.gather?_eq (h : Schema.Writes fields slots members) {ms : List Member}
    (hms : List.Forall₂ States ms members) (hfields : ∀ f ∈ fields, schema.field? f.name = some f) :
    ∀ before : Slots, (before.map Prod.fst ++ fields.map (·.name)).Nodup →
      gather? schema.step? before ms = some (before ++ slots) := by
  induction h generalizing ms with
  | nil =>
    cases hms
    intro before _
    rw [List.append_nil]
    rfl
  | @cons f fields slot slots j members hslot hmore ih =>
    obtain _ | @⟨m, _, ms, _, hstates, hms⟩ := hms
    rw [List.forall_mem_cons] at hfields
    intro before hnames
    have hfresh : before.lookup f.name = none := by
      refine List.lookup_eq_none_iff.mpr fun p hp => ?_
      rw [List.nodup_append] at hnames
      simpa using (hnames.2.2 p.1 (List.mem_map_of_mem hp) f.name List.mem_cons_self).symm
    have hstep : schema.step? before f.name m.value = some (before ++ [(f.name, slot)]) := by
      rw [step?, hfields.1]
      simp only [hfresh, Option.isSome_none, Bool.false_eq_true, if_false, hslot.slot?_eq hstates.2,
        Option.map_some]
    rw [gather?, hstates.1, Option.bind_some, hstep, Option.bind_some,
      ih hms hfields.2 (before ++ [(f.name, slot)]) (by simpa using hnames), List.append_assoc,
      List.singleton_append]

/-- A record is read again as it was written. -/
theorem Schema.IsDistinct.parse_compact (h : schema.IsDistinct)
    (hnames : (schema.fields.map (·.name)).Nodup) (hoptional : ∀ f ∈ schema.fields, f.required = false)
    (hwrites : Schema.Writes schema.fields slots members) :
    schema.parse (Json.object members).compact = .ok slots := by
  obtain ⟨ms, hcompact, hms⟩ := exists_writtenMembers hwrites.kept
  have hgather := hwrites.gather?_eq hms (fun f hf => h f hf f.name List.mem_cons_self) [] hnames
  refine toOption_eq_some_iff.mp ?_
  rw [hcompact, Schema.toOption_parse_object, slots?_eq_gather? hoptional]
  exact hgather

end

end PasswordGrant.Json
