import PasswordGrant.Proofs.Json.Kinds

/-!
# Records

A record that is written as an object is read member by member: a member with a name of its own is a
field, and any other member is passed over. So whether an object is a record, and what its fields are,
is decided by the members that go by each field: there may be one of them, and it must hold something
for the field. A record that is written as an array is read by position.

* `Schema.step?`, `gather?` : what one member adds, and all members together;
* `Schema.toOption_parse_object` : all objects are read in this way;
* `Kind.hold?`, `Field.valuesIn` : what one field makes of the members that go by it;
* `Schema.IsDistinct.lookup_gather?`, `Schema.IsDistinct.isSome_gather?_iff` : the fields are read apart
  from each other;
* `Positions` : the fields of an array; `Schema.parse_sound` : nothing but objects and arrays is read.
-/

namespace PasswordGrant.Json

open Written

/-! ### Members one after the other -/

/-- What is gathered from members one after the other, if all of them have names that denote texts and
none is refused. -/
def gather? {σ : Type} (step : σ → String → Value → Option σ) : σ → List Member → Option σ
  | acc, [] => some acc
  | acc, m :: ms =>
    (denotedText? m.name).bind fun name => (step acc name m.value).bind fun acc => gather? step acc ms

section

variable {σ : Type} {member : σ → String → Reader σ} {step : σ → String → Value → Option σ}

theorem gather?_append (acc : σ) (ms ns : List Member) :
    gather? step acc (ms ++ ns) = (gather? step acc ms).bind fun acc => gather? step acc ns := by
  induction ms generalizing acc with
  | nil => rfl
  | cons m ms ih =>
    rw [List.cons_append, gather?, gather?]
    cases denotedText? m.name with
    | none => rfl
    | some name =>
      rw [Option.bind_some, Option.bind_some]
      cases step acc name m.value with
      | none => rfl
      | some acc' => exact ih acc'

theorem toOption_readMember
    (hmember : ∀ acc name (behind between : Blanks) (v : Value) rest, Ends rest →
      (member acc name (behind.chars ++ ':' :: (between.chars ++ (v.chars ++ rest)))).toOption
        = (step acc name v).map (·, rest))
    (acc : σ) (m : Member) {rest : List Char} (hrest : Ends rest) :
    (readMember member acc (m.behindQuote rest)).toOption
      = ((denotedText? m.name).bind fun name => step acc name m.value).map
          (·, m.after.chars ++ rest) := by
  rw [readMember, toOption_bind, Member.behindQuote, readText_written]
  cases denotedText? m.name with
  | none => rfl
  | some name => exact hmember acc name m.behind m.between m.value _ (hrest.blanks m.after)

/-- Further members are gathered up to the closing brace. -/
theorem toOption_readMembersWithin
    (hmember : ∀ acc name (behind between : Blanks) (v : Value) rest, Ends rest →
      (member acc name (behind.chars ++ ':' :: (between.chars ++ (v.chars ++ rest)))).toOption
        = (step acc name v).map (·, rest))
    {n : Nat} {ms : List Member} (hn : ms.length < n) (acc : σ) (after : Blanks) (rest : List Char) :
    (readMembersWithin member n false acc (after.chars ++ (membersBehind ms ++ rest))).toOption
      = (gather? step acc ms).map (·, '\x7d' :: rest) := by
  induction ms generalizing n acc after with
  | nil =>
    obtain ⟨n, rfl⟩ : ∃ m, n = m + 1 := ⟨n - 1, by omega⟩
    rw [readMembersWithin, skipBlanks_append]
    rfl
  | cons m ms ih =>
    obtain ⟨n, rfl⟩ : ∃ m, n = m + 1 := ⟨n - 1, by omega⟩
    have hread := toOption_readMember hmember acc m (ends_membersBehind ms rest)
    have hmore := fun acc => ih (Nat.lt_of_succ_lt_succ hn) acc m.after
    have hname : skipBlanks (m.chars ++ (membersBehind ms ++ rest))
        = '"' :: m.behindQuote (membersBehind ms ++ rest) := by
      rw [Member.chars_append, skipBlanks_append, skipBlanks_cons_of_not_isBlank (by simp [isBlank])]
    rw [readMembersWithin, skipBlanks_append, membersBehind, List.cons_append, List.append_assoc,
      skipBlanks_cons_of_not_isBlank (by simp [isBlank])]
    simp only [hname, Bool.false_eq_true, if_false, if_true]
    refine toOption_bind.trans ?_
    rw [hread, gather?]
    cases denotedText? m.name with
    | none => rfl
    | some name =>
      simp only [Option.bind_some]
      cases step acc name m.value with
      | none => rfl
      | some acc' => exact hmore acc'

/-- The members of an object are gathered up to the closing brace. -/
theorem toOption_readMembers
    (hmember : ∀ acc name (behind between : Blanks) (v : Value) rest, Ends rest →
      (member acc name (behind.chars ++ ':' :: (between.chars ++ (v.chars ++ rest)))).toOption
        = (step acc name v).map (·, rest))
    (acc : σ) (inside : Blanks) (members : List Member) (rest : List Char) :
    (readMembers member acc (inside.chars ++ (membersChars members ++ rest))).toOption
      = (gather? step acc members).map (·, '\x7d' :: rest) := by
  rw [readMembers]
  cases members with
  | nil =>
    rw [readMembersWithin, skipBlanks_append]
    rfl
  | cons m ms =>
    have hread := toOption_readMember hmember acc m (ends_membersBehind ms rest)
    have hcount := length_membersBehind ms
    have hlength : ms.length < (inside.chars ++ (membersChars (m :: ms) ++ rest)).length := by
      rw [membersChars]
      simp only [List.length_append]
      omega
    have hmore := fun acc => toOption_readMembersWithin hmember hlength acc m.after rest
    rw [readMembersWithin, skipBlanks_members]
    simp only [if_true]
    refine toOption_bind.trans ?_
    rw [hread, gather?]
    cases denotedText? m.name with
    | none => rfl
    | some name =>
      simp only [Option.bind_some]
      cases step acc name m.value with
      | none => rfl
      | some acc' => exact hmore acc'

end

/-! ### Members of records -/

/-- What a member adds to the fields that were read: the value of its field, if it has one and the field
was not read before, or nothing, if it is no field. -/
def Schema.step? (schema : Schema) (slots : Slots) (name : String) (v : Value) : Option Slots :=
  match schema.field? name with
  | none => some slots
  | some field =>
    if (slots.lookup field.name).isSome then none
    else (field.kind.slot? v).map fun slot => slots ++ [(field.name, slot)]

/-- The fields of an object, if it is a record. -/
def Schema.slots? (schema : Schema) (members : List Member) : Option Slots :=
  (gather? schema.step? [] members).filter fun slots =>
    (schema.fields.find? fun f => f.required && (slots.lookup f.name).isNone).isNone

section

variable {schema : Schema}

/-- If all fields may be missing, whatever was gathered is a record. -/
theorem Schema.slots?_eq_gather? (h : ∀ f ∈ schema.fields, f.required = false) (ms : List Member) :
    schema.slots? ms = gather? schema.step? [] ms := by
  have hpresent : ∀ slots : Slots,
      schema.fields.find? (fun f => f.required && (slots.lookup f.name).isNone) = none := by
    intro slots
    refine List.find?_eq_none.mpr fun f hf => ?_
    rw [h f hf, Bool.false_and]
    nofun
  rw [slots?]
  cases gather? schema.step? [] ms with
  | none => rfl
  | some slots =>
    rw [Option.filter_some, hpresent slots]
    rfl

theorem Schema.toOption_readMember (slots : Slots) (name : String) (behind between : Blanks)
    (v : Value) {rest : List Char} (hrest : Ends rest) :
    (schema.readMember slots name (behind.chars ++ ':' ::
        (between.chars ++ (v.chars ++ rest)))).toOption
      = (schema.step? slots name v).map (·, rest) := by
  have hcolon : readColon (behind.chars ++ ':' :: (between.chars ++ (v.chars ++ rest)))
      = .ok (between.chars ++ (v.chars ++ rest)) := readColon_eq_ok_iff.mpr ⟨behind, rfl⟩
  rw [readMember, step?]
  cases hfield : schema.field? name with
  | none =>
    simp only [hcolon, bind, Except.bind, skipValue_written between v hrest]
    rfl
  | some field =>
    have hexact := field.kind.read_exact between v rest hrest
    simp only [hcolon]
    split
    · rfl
    · refine toOption_bind.trans ?_
      refine toOption_bind.trans ?_
      rw [hexact]
      cases field.kind.slot? v <;> rfl

/-- An object is read as a record up to its closing brace. -/
theorem Schema.toOption_read_object (before inside : Blanks) (members : List Member)
    (rest : List Char) :
    (schema.read (before.chars ++ ((Value.object inside members).chars ++ rest))).toOption
      = (schema.slots? members).map (·, rest) := by
  have hmembers := toOption_readMembers (fun slots name behind between v rest hrest =>
    schema.toOption_readMember slots name behind between v hrest) [] inside members rest
  have hleave : ∀ r : Except Fault (Slots × List Char), r.toOption = (gather? schema.step? [] members).map
      (·, '\x7d' :: rest) → (leaveObject (r >>= schema.checkRequired)).toOption
        = (schema.slots? members).map (·, rest) := by
    intro r hr
    rw [slots?]
    cases hgather : gather? schema.step? [] members with
    | none =>
      rw [hgather] at hr
      cases r with
      | error f => rfl
      | ok p => cases hr
    | some slots =>
      rw [hgather] at hr
      have hr := toOption_eq_some_iff.mp hr
      subst hr
      simp only [bind, Except.bind, checkRequired]
      cases hrequired : schema.fields.find? fun f => f.required && (slots.lookup f.name).isNone with
      | none => simp [Option.filter, hrequired]; rfl
      | some f => simp [Option.filter, hrequired]; rfl
  rw [read, skipBlanks_value, Value.object_append]
  exact hleave _ hmembers

theorem toOption_finish {α : Type} {r : Except Fault (α × List Char)} {x : Option α} (after : Blanks)
    (h : r.toOption = x.map (·, after.chars)) : (finish r).toOption = x := by
  cases x with
  | none =>
    cases r with
    | error f => rfl
    | ok p => cases h
  | some y =>
    have hr := toOption_eq_some_iff.mp h
    have hblanks : skipBlanks after.chars = [] := by
      rw [← List.append_nil after.chars, skipBlanks_append]
      rfl
    rw [hr, finish, hblanks]
    rfl

/-- Every object is read as the record that its members make up, if they make up one. -/
theorem Schema.toOption_parse_object (before inside : Blanks) (members : List Member)
    (after : Blanks) :
    (schema.parse (Document.mk before (.object inside members) after).text).toOption
      = schema.slots? members := by
  rw [parse, Document.text, String.toList_ofList]
  exact toOption_finish after (Schema.toOption_read_object before inside members after.chars)

end

/-! ### One field at a time -/

/-- The values of the members that have one of some names. -/
def valuesOf (names : List String) (members : List Member) : List Value :=
  members.filterMap fun m => if (denotedText? m.name).any names.contains then some m.value else none

/-- The values of the members that go by a field. -/
def Field.valuesIn (f : Field) (members : List Member) : List Value :=
  members.filterMap fun m =>
    if (denotedText? m.name).any f.goesBy then some m.value else none

theorem Field.valuesIn_eq (f : Field) (members : List Member) :
    f.valuesIn members = valuesOf (f.name :: f.spellings) members := by
  have hnames : f.goesBy = (f.name :: f.spellings).contains := by
    funext t
    rw [Bool.eq_iff_iff]
    simp [Field.goesBy, @eq_comm _ f.name]
  rw [valuesIn, valuesOf, hnames]

theorem Field.eq_of_goesBy {f : Field} (hplain : f.spellings = []) {name : String}
    (h : f.goesBy name = true) : f.name = name := by
  rw [goesBy, hplain, List.contains_nil, Bool.or_false] at h
  exact of_decide_eq_true h

theorem Field.valuesIn_eq_nil {f : Field} {ms : List Member}
    (h : ∀ m ∈ ms, ∀ name, denotedText? m.name = some name → f.goesBy name = false) :
    f.valuesIn ms = [] := by
  refine List.filterMap_eq_nil_iff.mpr fun m hm => ?_
  cases hname : denotedText? m.name with
  | none => rfl
  | some name =>
    rw [Option.any_some, h m hm name hname]
    rfl

theorem Field.valuesIn_spelled (name spelling : String) (kind : Kind) (members : List Member) :
    (Field.spelled name spelling kind).valuesIn members = valuesOf [name, spelling] members :=
  Field.valuesIn_eq _ members

/-- What is held for a field after the values of the members that go by it: what was held before if there
are none, and what the value holds if there is one and nothing was held. -/
def Kind.hold? (kind : Kind) : Option Slot → List Value → Option (Option Slot)
  | held, [] => some held
  | none, v :: vs => (kind.slot? v).bind fun slot => hold? kind (some slot) vs
  | some _, _ :: _ => none

def Schema.IsDistinct (schema : Schema) : Prop :=
  ∀ f ∈ schema.fields, ∀ name ∈ f.name :: f.spellings, schema.field? name = some f

section

variable {schema : Schema}

theorem Schema.IsDistinct.field? (h : schema.IsDistinct) {f : Field} (hf : f ∈ schema.fields)
    (name : String) : f.goesBy name = true ↔ schema.field? name = some f := by
  constructor
  · intro hname
    refine h f hf name ?_
    rw [Field.goesBy, Bool.or_eq_true, decide_eq_true_eq, List.contains_iff_mem] at hname
    rcases hname with hname | hname
    · exact hname ▸ List.mem_cons_self
    · exact List.mem_cons_of_mem _ hname
  · intro hname
    have hfound := List.find?_some hname
    exact hfound

theorem Schema.IsDistinct.eq_of_name (h : schema.IsDistinct) {f g : Field} (hf : f ∈ schema.fields)
    (hg : g ∈ schema.fields) (hname : f.name = g.name) : f = g := by
  have hf' := h f hf f.name List.mem_cons_self
  have hg' := h g hg g.name List.mem_cons_self
  rw [hname, hg'] at hf'
  exact (Option.some.inj hf').symm

theorem Kind.hold?_append (kind : Kind) (held : Option Slot) (vs ws : List Value) :
    kind.hold? held (vs ++ ws) = (kind.hold? held vs).bind fun held => kind.hold? held ws := by
  induction vs generalizing held with
  | nil => cases held <;> rfl
  | cons v vs ih =>
    cases held with
    | some slot => rfl
    | none =>
      rw [List.cons_append, hold?, hold?]
      cases kind.slot? v with
      | none => rfl
      | some slot => exact ih (some slot)

/-- The value of one member, if it goes by a field. -/
def Field.valueIn (f : Field) (name : String) (v : Value) : List Value :=
  if f.goesBy name then [v] else []

theorem Field.valuesIn_cons (f : Field) {m : Member} {name : String}
    (hname : denotedText? m.name = some name) (ms : List Member) :
    f.valuesIn (m :: ms) = f.valueIn name m.value ++ f.valuesIn ms := by
  rw [valuesIn, List.filterMap_cons, hname, Option.any_some, valueIn]
  cases f.goesBy name <;> rfl

/-- A member changes what is held for its own field, and nothing else. -/
theorem Schema.IsDistinct.hold?_of_step? (h : schema.IsDistinct) {slots slots' : Slots}
    {name : String} {v : Value} (hstep : schema.step? slots name v = some slots') {f : Field} (hf : f ∈ schema.fields) :
    f.kind.hold? (slots.lookup f.name) (f.valueIn name v) = some (slots'.lookup f.name) := by
  have hgoes := h.field? hf name
  rw [step?] at hstep
  cases hfield : schema.field? name with
  | none =>
    rw [hfield] at hstep hgoes
    cases hstep
    rw [Field.valueIn, if_neg (by rw [hgoes]; nofun)]
    cases slots.lookup f.name <;> rfl
  | some g =>
    have hg : g ∈ schema.fields := List.mem_of_find?_eq_some hfield
    rw [hfield] at hstep hgoes
    simp only at hstep
    split at hstep
    · cases hstep
    case isFalse hfree =>
    obtain ⟨slot, hslot, rfl⟩ := Option.map_eq_some_iff.mp hstep
    rw [List.lookup_append]
    by_cases hfg : f = g
    · subst hfg
      have hnone : slots.lookup f.name = none := Option.not_isSome_iff_eq_none.mp hfree
      rw [Field.valueIn, if_pos (hgoes.mpr rfl), hnone, Kind.hold?, hslot]
      simp [Kind.hold?]
    · have hne : f.name ≠ g.name := fun hname => hfg (h.eq_of_name hf hg hname)
      have hother : ¬f.goesBy name = true := fun hname => hfg (Option.some.inj (hgoes.mp hname)).symm
      have hsingle : List.lookup f.name [(g.name, slot)] = none := by simp [hne]
      rw [Field.valueIn, if_neg hother, hsingle, Option.or_none, Kind.hold?.eq_1]

/-- The field that a member goes by takes its value if nothing is held for it yet. -/
theorem Schema.IsDistinct.isSome_step? (h : schema.IsDistinct) (slots : Slots) (name : String)
    (v : Value) (hheld : ∀ f ∈ schema.fields,
      (f.kind.hold? (slots.lookup f.name) (f.valueIn name v)).isSome = true) :
    ∃ slots', schema.step? slots name v = some slots' := by
  rw [step?]
  cases hfield : schema.field? name with
  | none => exact ⟨slots, rfl⟩
  | some g =>
    have hg : g ∈ schema.fields := List.mem_of_find?_eq_some hfield
    have hheld := hheld g hg
    rw [Field.valueIn, if_pos ((h.field? hg name).mpr hfield)] at hheld
    cases hlookup : slots.lookup g.name with
    | some slot =>
      rw [hlookup] at hheld
      cases hheld
    | none =>
      rw [hlookup, Kind.hold?] at hheld
      cases hslot : g.kind.slot? v with
      | none =>
        rw [hslot] at hheld
        cases hheld
      | some slot => exact ⟨slots ++ [(g.name, slot)], by simp [hlookup, hslot]⟩

/-- What is gathered for a field is what is held for it after the values of the members that go by
it. -/
theorem Schema.IsDistinct.lookup_gather? (h : schema.IsDistinct) {slots slots' : Slots}
    {ms : List Member}
    (hgather : gather? schema.step? slots ms = some slots') {f : Field} (hf : f ∈ schema.fields) :
    f.kind.hold? (slots.lookup f.name) (f.valuesIn ms) = some (slots'.lookup f.name) := by
  induction ms generalizing slots with
  | nil =>
    cases hgather
    exact Kind.hold?.eq_1 ..
  | cons m ms ih =>
    rw [gather?] at hgather
    obtain ⟨name, hname, hgather⟩ := Option.bind_eq_some_iff.mp hgather
    obtain ⟨slots₁, hstep, hmore⟩ := Option.bind_eq_some_iff.mp hgather
    rw [f.valuesIn_cons hname, Kind.hold?_append, h.hold?_of_step? hstep hf, Option.bind_some]
    exact ih hmore

/-- Something is gathered exactly if all names denote texts and every field can hold its values. -/
theorem Schema.IsDistinct.isSome_gather?_iff (h : schema.IsDistinct) (slots : Slots)
    (ms : List Member) :
    (∃ slots', gather? schema.step? slots ms = some slots') ↔
      (∀ m ∈ ms, (denotedText? m.name).isSome = true) ∧ ∀ f ∈ schema.fields,
        (f.kind.hold? (slots.lookup f.name) (f.valuesIn ms)).isSome = true := by
  induction ms generalizing slots with
  | nil =>
    refine ⟨fun _ => ⟨nofun, fun f _ => ?_⟩, fun _ => ⟨slots, rfl⟩⟩
    rw [show f.valuesIn [] = [] from rfl, Kind.hold?.eq_1]
    rfl
  | cons m ms ih =>
    constructor
    · rintro ⟨slots', hgather⟩
      refine ⟨?_, fun f hf => by rw [h.lookup_gather? hgather hf]; rfl⟩
      rw [gather?] at hgather
      obtain ⟨name, hname, hgather⟩ := Option.bind_eq_some_iff.mp hgather
      obtain ⟨slots₁, -, hmore⟩ := Option.bind_eq_some_iff.mp hgather
      intro m' hm'
      rcases List.mem_cons.mp hm' with rfl | hm'
      · rw [hname]
        rfl
      · exact ((ih slots₁).mp ⟨slots', hmore⟩).1 m' hm'
    · rintro ⟨hnames, hheld⟩
      obtain ⟨name, hname⟩ := Option.isSome_iff_exists.mp (hnames m List.mem_cons_self)
      have hsplit : ∀ f ∈ schema.fields, ((f.kind.hold? (slots.lookup f.name)
          (f.valueIn name m.value)).bind fun held => f.kind.hold? held (f.valuesIn ms)).isSome = true := by
        intro f hf
        have hf' := hheld f hf
        rw [f.valuesIn_cons hname, Kind.hold?_append] at hf'
        exact hf'
      obtain ⟨slots₁, hstep⟩ := h.isSome_step? slots name m.value
        fun f hf => Option.isSome_of_isSome_bind (hsplit f hf)
      obtain ⟨slots', hmore⟩ := (ih slots₁).mpr
        ⟨fun m' hm' => hnames m' (List.mem_cons_of_mem m hm'), fun f hf => by
          have hf' := hsplit f hf
          rw [h.hold?_of_step? hstep hf, Option.bind_some] at hf'
          exact hf'⟩
      exact ⟨slots', by rw [gather?, hname, Option.bind_some, hstep, Option.bind_some, hmore]⟩

end

theorem Kind.hold?_none_eq_some_iff {kind : Kind} {vs : List Value} {held : Option Slot} :
    kind.hold? none vs = some held ↔
      vs.length ≤ 1 ∧ (∀ v ∈ vs, (kind.slot? v).isSome = true) ∧ held = vs.head?.bind kind.slot? := by
  match vs with
  | [] =>
    rw [hold?]
    exact ⟨fun h => ⟨Nat.zero_le 1, nofun, (Option.some.inj h).symm⟩, fun h => congrArg some h.2.2.symm⟩
  | [v] =>
    rw [hold?]
    cases hslot : kind.slot? v with
    | none => simp [hslot]
    | some slot => simp [hold?, hslot, @eq_comm _ held]
  | v :: w :: vs =>
    rw [hold?]
    cases hslot : kind.slot? v with
    | none => simp
    | some slot => simp [hold?]

theorem Kind.isSome_hold?_none_iff {kind : Kind} {vs : List Value} :
    (kind.hold? none vs).isSome = true ↔
      vs.length ≤ 1 ∧ ∀ v ∈ vs, (kind.slot? v).isSome = true := by
  rw [Option.isSome_iff_exists]
  constructor
  · rintro ⟨held, hheld⟩
    obtain ⟨hone, hvalues, -⟩ := Kind.hold?_none_eq_some_iff.mp hheld
    exact ⟨hone, hvalues⟩
  · rintro ⟨hone, hvalues⟩
    exact ⟨_, Kind.hold?_none_eq_some_iff.mpr ⟨hone, hvalues, rfl⟩⟩

theorem Kind.isSome_slot?_text {v : Value} :
    (Kind.text.slot? v).isSome = true ↔ ∃ t, v.text? = some t := by
  rw [Kind.slot?, Option.isSome_map, Option.isSome_iff_exists]

theorem Kind.isSome_slot?_optionalText {v : Value} :
    (Kind.optionalText.slot? v).isSome = true ↔ v = .null ∨ ∃ t, v.text? = some t := by
  rw [Kind.slot?, Option.isSome_map]
  cases v <;> simp [Value.optional, Value.text?, Option.isSome_iff_exists]

theorem Slots.text?_of_lookup {slots : Slots} {name : String} {v : Option Value}
    (h : slots.lookup name = v.bind Kind.text.slot? ∨
      slots.lookup name = v.bind Kind.optionalText.slot?) :
    slots.text? name = v.bind (·.text?) := by
  rw [text?, get]
  cases v with
  | none => rcases h with h | h <;> rw [h] <;> rfl
  | some v =>
    rcases h with h | h
    · rw [h, Option.bind_some, Option.bind_some, Kind.slot?]
      cases v.text? <;> rfl
    · rw [h, Option.bind_some, Option.bind_some, Kind.slot?]
      by_cases hnull : v = .null
      · subst hnull
        rfl
      · rw [Value.optional_of_ne hnull]
        cases v.text? <;> rfl

theorem Slots.integer?_of_lookup {slots : Slots} {name : String} {v : Option Value}
    (h : slots.lookup name = v.bind Kind.optionalInteger.slot?) :
    slots.integer? name = v.bind fun v => v.number?.bind Number.toInt? := by
  rw [integer?, get]
  cases v with
  | none => rw [h]; rfl
  | some v =>
    rw [h, Option.bind_some, Option.bind_some, Kind.slot?]
    by_cases hnull : v = .null
    · subst hnull
      rfl
    · rw [Value.optional_of_ne hnull]
      cases v.number?.bind Number.toInt? <;> rfl

theorem Slots.text?_of_get {slots : Slots} {name : String} {t : Option String}
    (h : slots.get name = .ofOption .text t) : slots.text? name = t := by
  rw [text?, h]
  cases t <;> rfl

theorem Slots.integer?_of_get {slots : Slots} {name : String} {x : Option Int}
    (h : slots.get name = .ofOption .integer x) : slots.integer? name = x := by
  rw [integer?, h]
  cases x <;> rfl

/-! ### Nothing but records is read -/

/-- What is read from the elements of an array, one for each field in order, as far as there are
elements. -/
inductive Positions : List Field → List Item → Slots → Slots → Prop
  | nil (fields : List Field) (slots : Slots) : Positions fields [] slots slots
  | cons {field : Field} {fields : List Field} {i : Item} {is : List Item} {slots slots' : Slots}
      {slot : Slot} (h : field.kind.slot? i.value = some slot)
      (hmore : Positions fields is (slots ++ [(field.name, slot)]) slots') :
      Positions (field :: fields) (i :: is) slots slots'

section

variable {schema : Schema}

theorem gather?_of_gathers {σ : Type} {step : σ → String → Value → Option σ} {acc acc' : σ}
    {ms : List Member} (h : Gathers (fun acc name v acc' => step acc name v = some acc') acc ms acc') :
    gather? step acc ms = some acc' := by
  induction h with
  | nil acc => rfl
  | cons hname hstep _ ih => rw [gather?, hname, Option.bind_some, hstep, Option.bind_some, ih]

/-- What a member was read as is what it adds. -/
theorem Schema.readMember_sound {slots slots' : Slots} {name : String} {s rest : List Char}
    (h : schema.readMember slots name s = .ok (slots', rest)) :
    ∃ (behind between : Blanks) (v : Value),
      s = behind.chars ++ ':' :: (between.chars ++ (v.chars ++ rest)) ∧
        schema.step? slots name v = some slots' := by
  rw [readMember] at h
  split at h
  case h_1 hfield =>
    obtain ⟨s₁, hcolon, h⟩ := bind_eq_ok.mp h
    obtain ⟨s₂, hskip, h⟩ := bind_eq_ok.mp h
    cases h
    obtain ⟨behind, rfl⟩ := readColon_eq_ok_iff.mp hcolon
    obtain ⟨between, v, rfl⟩ := skipValue_sound hskip
    exact ⟨behind, between, v, rfl, by rw [step?, hfield]⟩
  case h_2 field hfield =>
    split at h
    · cases h
    case isFalse hfree =>
    obtain ⟨s₁, hcolon, h⟩ := bind_eq_ok.mp h
    obtain ⟨⟨slot, s₂⟩, hread, h⟩ := bind_eq_ok.mp h
    cases h
    obtain ⟨behind, rfl⟩ := readColon_eq_ok_iff.mp hcolon
    obtain ⟨between, v, rfl, hslot⟩ := field.kind.read_sound _ _ _ hread
    refine ⟨behind, between, v, rfl, ?_⟩
    rw [step?, hfield]
    simp only [if_neg hfree, hslot, Option.map_some]

theorem Schema.readPositions_end {fields : List Field} {slots slots' : Slots}
    {tail rest : List Char} (h : schema.readPositions fields slots (']' :: tail) = .ok (slots', rest)) :
    slots' = slots ∧ rest = ']' :: tail := by
  induction fields with
  | nil =>
    cases h
    exact ⟨rfl, rfl⟩
  | cons field fields ih =>
    have hnext : nextElement slots.isEmpty (']' :: tail) = .ok (false, ']' :: tail) := rfl
    rw [readPositions, hnext] at h
    simp only [bind, Except.bind, Bool.false_eq_true, if_false] at h
    split at h
    · cases h
    · exact ih h

theorem closeArray_sound {s rest : List Char} (h : closeArray s = .ok rest) :
    ∃ after : Blanks, s = after.chars ++ ']' :: rest := by
  rw [closeArray] at h
  split at h
  · cases h
  rename_i heq
  obtain ⟨after, rfl⟩ := exists_blanks heq
  split at h
  case isTrue hc =>
    cases h
    exact ⟨after, by rw [hc]⟩
  case isFalse =>
    split at h
    · split at h <;> cases h
    · cases h

theorem Schema.readPositions_done {fields : List Field} {slots slots' : Slots} {s s' rest : List Char}
    (hnext : nextElement slots.isEmpty s = .ok (false, ']' :: rest))
    (h : schema.readPositions fields slots s = .ok (slots', s')) (hfields : fields ≠ []) :
    slots' = slots ∧ s' = ']' :: rest := by
  cases fields with
  | nil => exact absurd rfl hfields
  | cons field fields =>
    rw [readPositions, hnext] at h
    simp only [bind, Except.bind, Bool.false_eq_true, if_false] at h
    split at h
    · cases h
    · exact readPositions_end h

/-- The elements behind the first one belong to the fields in order. -/
theorem Schema.readPositions_later {fields : List Field} {slots slots' : Slots}
    {s s' rest : List Char} (hslots : slots ≠ [])
    (h : schema.readPositions fields slots s = .ok (slots', s')) (hclose : closeArray s' = .ok rest) :
    ∃ (after : Blanks) (is : List Item), s = after.chars ++ (itemsBehind is ++ rest) ∧
      Positions fields is slots slots' := by
  induction fields generalizing slots s with
  | nil =>
    cases h
    obtain ⟨after, rfl⟩ := closeArray_sound hclose
    exact ⟨after, [], rfl, .nil [] _⟩
  | cons field fields ih =>
    have hempty : slots.isEmpty = false := by simpa using hslots
    have hread := h
    rw [readPositions, hempty] at hread
    obtain ⟨⟨more, s₁⟩, hnext, hread⟩ := bind_eq_ok.mp hread
    cases more with
    | true =>
      simp only [if_true] at hread
      obtain ⟨⟨slot, s₂⟩, hvalue, hmore⟩ := bind_eq_ok.mp hread
      obtain ⟨b', v, rfl, hslot⟩ := field.kind.read_sound _ _ _ hvalue
      obtain ⟨after', is, rfl, his⟩ := ih (by simp) hmore
      obtain ⟨after, b, rfl⟩ := nextElement_later hnext
      refine ⟨after, ⟨b.append b', v, after'⟩ :: is, ?_, .cons hslot his⟩
      simp [itemsBehind, Item.chars, Blanks.append]
    | false =>
      obtain ⟨after, tail, rfl, rfl⟩ := nextElement_end hnext
      have hend : nextElement slots.isEmpty (after.chars ++ ']' :: tail) = .ok (false, ']' :: tail) := by
        rw [hempty, hnext]
      obtain ⟨rfl, rfl⟩ := readPositions_done hend h (List.cons_ne_nil _ _)
      cases hclose
      exact ⟨after, [], rfl, .nil _ _⟩

/-- An array that is read has elements that belong to the fields in order. -/
theorem Schema.readPositions_sound {fields : List Field} {slots : Slots} {s rest : List Char}
    (h : leaveArray (schema.readPositions fields [] s) = .ok (slots, rest)) :
    ∃ (inside : Blanks) (items : List Item), s = inside.chars ++ (itemsChars items ++ rest) ∧
      Positions fields items [] slots := by
  obtain ⟨s', hall, hclose⟩ := leaveArray_ok h
  cases fields with
  | nil =>
    cases hall
    obtain ⟨inside, rfl⟩ := closeArray_sound hclose
    exact ⟨inside, [], rfl, .nil [] _⟩
  | cons field fields =>
    have hread := hall
    rw [readPositions] at hread
    obtain ⟨⟨more, s₁⟩, hnext, hread⟩ := bind_eq_ok.mp hread
    cases more with
    | true =>
      simp only [if_true] at hread
      obtain ⟨⟨slot, s₂⟩, hvalue, hmore⟩ := bind_eq_ok.mp hread
      obtain ⟨b, v, rfl, hslot⟩ := field.kind.read_sound _ _ _ hvalue
      obtain ⟨after, is, rfl, his⟩ := readPositions_later (by simp) hmore hclose
      obtain ⟨inside, rfl⟩ := nextElement_first hnext
      refine ⟨inside, ⟨b, v, after⟩ :: is, ?_, .cons hslot his⟩
      simp [itemsChars, Item.chars]
    | false =>
      obtain ⟨inside, tail, rfl, rfl⟩ := nextElement_end hnext
      obtain ⟨rfl, rfl⟩ := readPositions_done hnext hall (List.cons_ne_nil _ _)
      cases hclose
      exact ⟨inside, [], rfl, .nil _ _⟩

/-- What is read as a record was written as an object whose members make up its fields, or as an array
whose elements are its fields in order. -/
theorem Schema.parse_sound {text : String} {slots : Slots} (h : schema.parse text = .ok slots) :
    ∃ d : Document, text = d.text ∧
      ((∃ inside members, d.value = .object inside members ∧
          gather? schema.step? [] members = some slots) ∨
        ∃ inside items, d.value = .array inside items ∧ Positions schema.fields items [] slots) := by
  obtain ⟨after, hread⟩ := finish_sound h
  rw [read] at hread
  split at hread
  · cases hread
  rename_i heq
  obtain ⟨before, htext⟩ := exists_blanks heq
  have hwritten : ∀ v : Value, text.toList = before.chars ++ (v.chars ++ after.chars) →
      text = (Document.mk before v after).text := by
    intro v hv
    rw [Document.text, ← hv, String.ofList_toList]
  split at hread
  case isTrue hc =>
    obtain ⟨inside, items, hs, hitems⟩ := readPositions_sound hread
    refine ⟨⟨before, .array inside items, after⟩, hwritten _ ?_, .inr ⟨inside, items, rfl, hitems⟩⟩
    rw [htext, hc, hs, Value.array_append]
  split at hread
  case isTrue hc =>
    obtain ⟨s', hread, hclose⟩ := leaveObject_ok hread
    obtain ⟨⟨slots', s''⟩, hread, hrequired⟩ := bind_eq_ok.mp hread
    obtain ⟨inside, members, tail, rfl, hs, hmembers⟩ := readMembers_sound
      (Q := fun slots name v slots' => schema.step? slots name v = some slots')
      (fun _ _ _ _ _ => readMember_sound) hread
    rw [checkRequired] at hrequired
    split at hrequired
    · cases hrequired
    cases hrequired
    cases hclose
    refine ⟨⟨before, .object inside members, after⟩, hwritten _ ?_,
      .inl ⟨inside, members, rfl, gather?_of_gathers hmembers⟩⟩
    rw [htext, hc, hs, Value.object_append]
  case isFalse => cases hread

end

end PasswordGrant.Json
