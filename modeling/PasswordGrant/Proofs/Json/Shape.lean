import PasswordGrant.Proofs.Json.Records

/-!
# The shape of documents that are records

A record is an object or an array, and nothing else. Each of its fields is read from one place: the
members of the object that have a name of the field, or the element of the array in the place of the
field.

* `Written.Value.isObject`, `Written.Value.isArray` : the shapes, which a document shows by one
  character (`Written.Document.lead_eq`);
* `Written.Value.entries` : where a field stands;
* `Schema.IsDistinct.lookup_of_parse` : what is read for a field is what stands there.
-/

namespace PasswordGrant.Json

open Written

/-! ### Shapes -/

/-- Whether a value is an object. -/
def Written.Value.isObject : Value → Bool
  | .object _ _ => true
  | _ => false

/-- Whether a value is an array. -/
def Written.Value.isArray : Value → Bool
  | .array _ _ => true
  | _ => false

theorem Written.Value.isObject_iff (v : Value) : v.isObject = true ↔ v.lead = '\x7b' := by
  match v with
  | .number n => simp [isObject, lead_number_ne n (show '\x7b' ≠ '-' by decide) rfl]
  | .null | .flag true | .flag false | .text _ | .array .. | .object .. => simp [isObject, lead]

theorem Written.Value.isArray_iff (v : Value) : v.isArray = true ↔ v.lead = '[' := by
  match v with
  | .number n => simp [isArray, lead_number_ne n (show '[' ≠ '-' by decide) rfl]
  | .null | .flag true | .flag false | .text _ | .array .. | .object .. => simp [isArray, lead]

/-- The text of a document tells the kind of its value. -/
theorem Written.Document.lead_eq {d d' : Document} (h : d.text = d'.text) :
    d.value.lead = d'.value.lead := by
  have hchars := congrArg String.toList h
  rw [text, text, String.toList_ofList, String.toList_ofList] at hchars
  have hvalues := congrArg skipBlanks hchars
  rw [skipBlanks_value, skipBlanks_value] at hvalues
  obtain ⟨tail, htail⟩ := d.value.exists_chars
  obtain ⟨tail', htail'⟩ := d'.value.exists_chars
  rw [htail, htail', List.cons_append, List.cons_append] at hvalues
  exact (List.cons.inj hvalues).1

/-! ### Places of fields -/

/-- The values that stand for a field: those of the members with one of its names, and in an array the
element in its place. -/
def Written.Value.entries (names : List String) (place : Nat) : Value → List Value
  | .object _ members => valuesOf names members
  | .array _ items => (items[place]?.map (·.value)).toList
  | _ => []

theorem prefix_of_positions {fields : List Field} {items : List Item} {slots slots' : Slots}
    (h : Positions fields items slots slots') : ∃ more, slots' = slots ++ more := by
  induction h with
  | nil fields slots => exact ⟨[], (List.append_nil slots).symm⟩
  | cons _ _ ih =>
    obtain ⟨more, hmore⟩ := ih
    exact ⟨_, hmore.trans (List.append_assoc _ _ _)⟩

/-- The elements of an array are read for the fields in their places. -/
theorem lookup_of_positions {fields : List Field} {items : List Item} {slots slots' : Slots}
    (h : Positions fields items slots slots') {place : Nat} {f : Field} (hf : fields[place]? = some f)
    (hfirst : ∀ g ∈ fields.take place, g.name ≠ f.name) :
    slots'.lookup f.name
      = (slots.lookup f.name).or (items[place]?.bind fun i => f.kind.slot? i.value) := by
  induction h generalizing place with
  | nil fields slots => rw [List.getElem?_nil, Option.bind_none, Option.or_none]
  | @cons field fields i is slots slots' slot hslot hmore ih =>
    cases place with
    | zero =>
      cases hf
      obtain ⟨more, rfl⟩ := prefix_of_positions hmore
      have hself : List.lookup f.name [(f.name, slot)] = some slot := List.lookup_cons_self
      rw [List.lookup_append, List.lookup_append, hself]
      simp only [List.getElem?_cons_zero, Option.bind_some, hslot, Option.or_assoc, Option.some_or]
    | succ place =>
      rw [List.take_succ_cons, List.forall_mem_cons] at hfirst
      have hother : List.lookup f.name [(field.name, slot)] = none := by
        simp [hfirst.1.symm]
      rw [ih hf hfirst.2, List.lookup_append, hother, Option.or_none]
      rfl

variable {schema : Schema}

/-- What is read as a record is an object or an array, and its fields are what stands in their places:
nothing, or one value, which holds something for the field. -/
theorem Schema.IsDistinct.lookup_of_parse (h : schema.IsDistinct) {text : String} {slots : Slots}
    (hparse : schema.parse text = .ok slots) :
    ∃ d : Document, text = d.text ∧ (d.value.isObject || d.value.isArray) = true ∧
      ∀ place f, schema.fields[place]? = some f → (∀ g ∈ schema.fields.take place, g.name ≠ f.name) →
        (d.value.entries (f.name :: f.spellings) place).length ≤ 1 ∧
        slots.lookup f.name = (d.value.entries (f.name :: f.spellings) place).head?.bind f.kind.slot? := by
  obtain ⟨⟨before, v, after⟩, htext, hobject | harray⟩ := Schema.parse_sound hparse
  · obtain ⟨inside, members, rfl, hgather⟩ := hobject
    refine ⟨_, htext, rfl, fun place f hf _ => ?_⟩
    have hheld := h.lookup_gather? hgather (List.mem_of_getElem? hf)
    rw [List.lookup_nil, f.valuesIn_eq] at hheld
    obtain ⟨hone, -, hlookup⟩ := Kind.hold?_none_eq_some_iff.mp hheld
    exact ⟨hone, hlookup⟩
  · obtain ⟨inside, items, rfl, hitems⟩ := harray
    refine ⟨_, htext, rfl, fun place f hf hfirst => ?_⟩
    have hlookup := lookup_of_positions hitems hf hfirst
    rw [hlookup, Value.entries]
    cases items[place]? with
    | none => exact ⟨Nat.zero_le 1, rfl⟩
    | some i => exact ⟨Nat.le_refl 1, rfl⟩

end PasswordGrant.Json
