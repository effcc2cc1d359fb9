import Mathlib.Algebra.Group.Nat.Defs
import PasswordGrant.Proofs.Json.Records
import PasswordGrant.TokenResponse

/-!
# Token responses that are objects

Which objects are token responses, and what they say. The members may come in any order, with any blanks
and among any other members; each field may come once under both of its spellings together. An object
that does not say this, or whose names do not all denote texts, is malformed.

* `TokenResponse.Conforms` : what the members of a token response say;
* `TokenResponse.stated` : the fields that they state;
* `TokenResponse.parse_object` : objects are read in this way and in no other.
-/

namespace PasswordGrant

open Json Json.Written

/-- The whole number from zero up that a value is, if it is written without sign, fraction and
exponent. -/
def Json.Written.Value.natural? : Value → Option Nat
  | .number n => n.natural?
  | _ => none

namespace TokenResponse

/-! ### What members state -/

/-- The names of the field with the token. -/
def tokenNames : List String := ["access_token", "AccessToken"]

/-- The names of the fields with whole numbers. -/
def naturalNames : List (List String) :=
  [["expires_in", "Expires"], ["refresh_expires_in", "RefreshExpires"]]

/-- The names of the fields with texts that may be missing. -/
def textNames : List (List String) :=
  [["refresh_token", "RefreshToken"], ["token_type", "TokenType"], ["session_state", "Session"],
   ["scope", "Scope"]]

/-- What the members of a token response say: no field comes twice; there is a token, which is not
empty; lifetimes are whole numbers below `2 ^ 64` or `null`; everything else is a text or `null`. -/
structure Conforms (members : List Member) : Prop where
  once : ∀ names ∈ tokenNames :: (naturalNames ++ textNames), (valuesOf names members).length ≤ 1
  token : ∃ v ∈ valuesOf tokenNames members, ∃ t, v.text? = some t ∧ t ≠ ""
  naturals : ∀ names ∈ naturalNames, ∀ v ∈ valuesOf names members,
    v = .null ∨ ∃ n, v.natural? = some n ∧ n < 2 ^ 64
  texts : ∀ names ∈ textNames, ∀ v ∈ valuesOf names members, v = .null ∨ ∃ t, v.text? = some t

/-- All names of members denote texts. -/
def Named (members : List Member) : Prop := ∀ m ∈ members, (denotedText? m.name).isSome = true

def textOf (names : List String) (members : List Member) : Option String :=
  (valuesOf names members).head?.bind (·.text?)

def naturalOf (names : List String) (members : List Member) : Option Nat :=
  (valuesOf names members).head?.bind (·.natural?)

/-- The fields as the members state them, whichever spelling each of them has. -/
def stated (members : List Member) : TokenResponse where
  accessToken := (textOf tokenNames members).getD ""
  expiresIn := naturalOf ["expires_in", "Expires"] members
  refreshToken := textOf ["refresh_token", "RefreshToken"] members
  refreshExpiresIn := naturalOf ["refresh_expires_in", "RefreshExpires"] members
  tokenType := textOf ["token_type", "TokenType"] members
  sessionState := textOf ["session_state", "Session"] members
  scope := textOf ["scope", "Scope"] members

/-! ### What fields hold -/

theorem schema_isDistinct : schema.IsDistinct := by
  unfold Schema.IsDistinct
  decide

/-- A whole number below `2 ^ 64` is kept exactly, and no other is kept as one from zero up. -/
theorem number?_bind_toNat? (v : Value) :
    v.number?.bind Number.toNat? = v.natural?.filter fun n => decide (n < 2 ^ 64) := by
  cases v with
  | number n =>
    rw [Value.number?, Value.natural?, Written.Number.kept?, Written.Number.natural?]
    by_cases htail : n.fraction.isSome || n.exponent.isSome
    · rw [htail, Bool.true_or, if_pos rfl, Bool.or_assoc, htail, Bool.or_true, if_pos rfl]
      rfl
    · obtain ⟨hfraction, hexponent⟩ : n.fraction = none ∧ n.exponent = none := by simpa using htail
      rw [hfraction, hexponent]
      by_cases hlarge : 0x10000000000000000 ≤ n.whole.value
      · cases n.negative <;> simp [hlarge, Option.filter]
      · cases n.negative with
        | false => simp [hlarge, Option.filter, Number.toNat?]
        | true =>
          simp only [hlarge, Option.isSome_none, Bool.or_self, decide_false, Bool.false_eq_true, if_false,
            Bool.not_true, Bool.true_or, if_true]
          split <;> rfl
  | _ => rfl

theorem isSome_slot?_optionalNatural {v : Value} :
    (Kind.optionalNatural.slot? v).isSome = true ↔
      v = .null ∨ ∃ n, v.natural? = some n ∧ n < 2 ^ 64 := by
  rw [Kind.slot?, Option.isSome_map]
  by_cases hnull : v = .null
  · subst hnull
    exact ⟨fun _ => .inl rfl, fun _ => rfl⟩
  · rw [Value.optional_of_ne hnull, Option.isSome_map, number?_bind_toNat?, or_iff_right hnull]
    cases v.natural? <;> simp

theorem natural?_of_lookup {slots : Slots} {name : String} {vs : List Value}
    (hvs : ∀ v ∈ vs, v = .null ∨ ∃ n, v.natural? = some n ∧ n < 2 ^ 64)
    (h : slots.lookup name = vs.head?.bind Kind.optionalNatural.slot?) :
    slots.natural? name = vs.head?.bind (·.natural?) := by
  rw [Slots.natural?, Slots.get, h]
  cases vs with
  | nil => rfl
  | cons v vs =>
    rcases hvs v List.mem_cons_self with rfl | ⟨n, hn, hbound⟩
    · rfl
    · have hnull : v ≠ .null := by
        rintro rfl
        cases hn
      rw [List.head?_cons, Option.bind_some, Option.bind_some, Kind.slot?, Value.optional_of_ne hnull,
        number?_bind_toNat?, hn, Option.filter_some, if_pos (decide_eq_true hbound)]
      rfl

/-! ### Objects -/

theorem required_eq_false : ∀ f ∈ schema.fields, f.required = false := by decide

/-- An object can be read exactly if each field comes once at most and holds what it should; the token
may still be missing or empty. -/
theorem exists_slots_iff (members : List Member) :
    (∃ slots, schema.slots? members = some slots) ↔ Named members ∧
      (∀ names ∈ tokenNames :: (naturalNames ++ textNames), (valuesOf names members).length ≤ 1) ∧
      (∀ v ∈ valuesOf tokenNames members, ∃ t, v.text? = some t) ∧
      (∀ names ∈ naturalNames, ∀ v ∈ valuesOf names members,
        v = .null ∨ ∃ n, v.natural? = some n ∧ n < 2 ^ 64) ∧
      ∀ names ∈ textNames, ∀ v ∈ valuesOf names members, v = .null ∨ ∃ t, v.text? = some t := by
  rw [Schema.slots?_eq_gather? required_eq_false, schema_isDistinct.isSome_gather?_iff]
  refine and_congr_right fun _ => ?_
  simp only [List.lookup_nil, Kind.isSome_hold?_none_iff]
  simp only [schema, List.forall_mem_cons, Field.valuesIn_spelled]
  simp only [Field.spelled, Kind.isSome_slot?_text, Kind.isSome_slot?_optionalText,
    isSome_slot?_optionalNatural, tokenNames, naturalNames, textNames, List.cons_append,
    List.nil_append, List.forall_mem_cons, List.not_mem_nil, false_implies, implies_true, and_true]
  constructor
  · rintro ⟨⟨h₁, hv₁⟩, ⟨h₂, hv₂⟩, ⟨h₃, hv₃⟩, ⟨h₄, hv₄⟩, ⟨h₅, hv₅⟩, ⟨h₆, hv₆⟩, h₇, hv₇⟩
    exact ⟨⟨h₁, h₂, h₄, h₃, h₅, h₆, h₇⟩, hv₁, ⟨hv₂, hv₄⟩, hv₃, hv₅, hv₆, hv₇⟩
  · rintro ⟨⟨h₁, h₂, h₄, h₃, h₅, h₆, h₇⟩, hv₁, ⟨hv₂, hv₄⟩, hv₃, hv₅, hv₆, hv₇⟩
    exact ⟨⟨h₁, hv₁⟩, ⟨h₂, hv₂⟩, ⟨h₃, hv₃⟩, ⟨h₄, hv₄⟩, ⟨h₅, hv₅⟩, ⟨h₆, hv₆⟩, h₇, hv₇⟩

theorem lookup_slots? {members : List Member} {slots : Slots} (h : schema.slots? members = some slots)
    {name spelling : String} {kind : Kind} (hf : Field.spelled name spelling kind ∈ schema.fields) :
    slots.lookup name = (valuesOf [name, spelling] members).head?.bind kind.slot? := by
  rw [Schema.slots?_eq_gather? required_eq_false] at h
  have hheld := schema_isDistinct.lookup_gather? h hf
  rw [Field.valuesIn_spelled] at hheld
  exact (Kind.hold?_none_eq_some_iff.mp hheld).2.2

theorem ofSlots_eq_stated {members : List Member} {slots : Slots}
    (h : schema.slots? members = some slots) : ofSlots slots = stated members := by
  obtain ⟨-, -, -, hnaturals, -⟩ := (exists_slots_iff members).mp ⟨slots, h⟩
  have htext : ∀ name spelling, Field.spelled name spelling .optionalText ∈ schema.fields →
      slots.text? name = textOf [name, spelling] members := fun name spelling hf =>
    Slots.text?_of_lookup (.inr (lookup_slots? h hf))
  have hnatural : ∀ name spelling, [name, spelling] ∈ naturalNames →
      Field.spelled name spelling .optionalNatural ∈ schema.fields →
      slots.natural? name = naturalOf [name, spelling] members := fun name spelling hnames hf =>
    natural?_of_lookup (hnaturals _ hnames) (lookup_slots? h hf)
  have htoken : slots.text? "access_token" = textOf tokenNames members :=
    Slots.text?_of_lookup (.inl (lookup_slots? h (by decide)))
  rw [ofSlots, stated, htoken, hnatural "expires_in" "Expires" (by decide) (by decide),
    htext "refresh_token" "RefreshToken" (by decide),
    hnatural "refresh_expires_in" "RefreshExpires" (by decide) (by decide),
    htext "token_type" "TokenType" (by decide), htext "session_state" "Session" (by decide),
    htext "scope" "Scope" (by decide)]

theorem parse_error {body : String} {f : Failure} (h : parse body = .error f) :
    ∃ message, f = .malformedResponse message := by
  rw [parse] at h
  split at h
  · cases h
    exact ⟨_, rfl⟩
  · simp only at h
    split at h
    · cases h
      exact ⟨_, rfl⟩
    · cases h

theorem toOption_parse (body : String) :
    (parse body).toOption = ((schema.parse body).toOption.map ofSlots).filter
      fun response => decide (response.accessToken ≠ "") := by
  rw [parse]
  cases schema.parse body with
  | error f => rfl
  | ok slots =>
    show _ = (some (ofSlots slots)).filter _
    by_cases hempty : (ofSlots slots).accessToken = ""
    · simp [hempty, Option.filter, Except.toOption]
    · have hnonempty : (ofSlots slots).accessToken.isEmpty = false := by
        simpa [String.isEmpty_iff] using hempty
      simp [hempty, hnonempty, Option.filter, Except.toOption]

theorem stated_accessToken_ne_empty_iff {members : List Member}
    (hvalues : (valuesOf tokenNames members).length ≤ 1) :
    (stated members).accessToken ≠ "" ↔
      ∃ v ∈ valuesOf tokenNames members, ∃ t, v.text? = some t ∧ t ≠ "" := by
  show ((valuesOf tokenNames members).head?.bind (·.text?)).getD "" ≠ "" ↔ _
  match valuesOf tokenNames members, hvalues with
  | [], _ => simp
  | [v], _ => cases hv : v.text? <;> simp [hv]

/-- The members of an object say what a token response says exactly if they can be read and the token is
not empty. -/
theorem named_and_conforms_iff (members : List Member) :
    Named members ∧ Conforms members ↔
      (∃ slots, schema.slots? members = some slots) ∧ (stated members).accessToken ≠ "" := by
  rw [exists_slots_iff]
  constructor
  · rintro ⟨hnamed, honce, htoken, hnaturals, htexts⟩
    have hone : (valuesOf tokenNames members).length ≤ 1 := honce tokenNames List.mem_cons_self
    refine ⟨⟨hnamed, honce, ?_, hnaturals, htexts⟩, (stated_accessToken_ne_empty_iff hone).mpr htoken⟩
    obtain ⟨v, hv, t, ht, -⟩ := htoken
    intro w hw
    match valuesOf tokenNames members, hone, hv, hw with
    | [u], _, hv, hw =>
      rw [List.mem_singleton.mp hw, ← List.mem_singleton.mp hv]
      exact ⟨t, ht⟩
  · rintro ⟨⟨hnamed, honce, -, hnaturals, htexts⟩, htoken⟩
    have hone : (valuesOf tokenNames members).length ≤ 1 := honce tokenNames List.mem_cons_self
    exact ⟨hnamed, honce, (stated_accessToken_ne_empty_iff hone).mp htoken, hnaturals, htexts⟩

/-- Every object is either read as the fields that its members state, if they say what a token response
says and all names denote texts, or refused as malformed. -/
theorem parse_object (before inside : Blanks) (members : List Member) (after : Blanks) :
    ((Named members ∧ Conforms members) ∧
      parse (Document.mk before (.object inside members) after).text = .ok (stated members)) ∨
    (¬(Named members ∧ Conforms members) ∧ ∃ message,
      parse (Document.mk before (.object inside members) after).text
        = .error (.malformedResponse message)) := by
  have hparse := toOption_parse (Document.mk before (.object inside members) after).text
  rw [Schema.toOption_parse_object] at hparse
  by_cases hconforms : Named members ∧ Conforms members
  · obtain ⟨⟨slots, hslots⟩, htoken⟩ := (named_and_conforms_iff members).mp hconforms
    rw [hslots, Option.map_some, ofSlots_eq_stated hslots, Option.filter_some,
      if_pos (decide_eq_true htoken)] at hparse
    exact .inl ⟨hconforms, toOption_eq_some_iff.mp hparse⟩
  · refine .inr ⟨hconforms, ?_⟩
    cases hresult : parse (Document.mk before (.object inside members) after).text with
    | error f =>
      obtain ⟨message, rfl⟩ := parse_error hresult
      exact ⟨message, rfl⟩
    | ok response =>
      -- what was read has slots and a token, so the members say what they should
      rw [hresult] at hparse
      obtain ⟨hmap, htoken⟩ := Option.filter_eq_some_iff.mp hparse.symm
      obtain ⟨slots, hslots, rfl⟩ := Option.map_eq_some_iff.mp hmap
      rw [ofSlots_eq_stated hslots, decide_eq_true_eq] at htoken
      exact absurd ((named_and_conforms_iff members).mpr ⟨⟨slots, hslots⟩, htoken⟩) hconforms

theorem plain_access_token : ∀ c ∈ "access_token".toList, 0x20 ≤ c.toNat ∧ c ≠ '"' ∧ c ≠ '\\' := by
  have hall : ("access_token".toList.all fun c => decide (0x20 ≤ c.toNat ∧ c ≠ '"' ∧ c ≠ '\\'))
      = true := by
    decide
  exact fun c hc => of_decide_eq_true (List.all_eq_true.mp hall c hc)

/-- A token, and a member whose name is the first half of a surrogate pair alone. -/
def halfNamed : List Member :=
  [⟨noBlanks, List.pmap Letter.plain "access_token".toList plain_access_token, noBlanks, noBlanks,
    .text [.plain 'a' (by decide)], noBlanks⟩,
   ⟨noBlanks, [.unit 'd' '8' '0' '0' 0xD800 rfl], noBlanks, noBlanks,
    .number ⟨false, ⟨'0', [], rfl, nofun⟩, none, none, fun _ => rfl⟩, noBlanks⟩]

/-- Such members say what a token response says, but the object that they make up is refused for the
name. -/
theorem parse_halfNamed :
    Conforms halfNamed ∧
    (Document.mk noBlanks (.object noBlanks halfNamed) noBlanks).text
      = "\x7b\"access_token\":\"a\",\"\\ud800\":0\x7d" ∧
    ∃ message, parse "\x7b\"access_token\":\"a\",\"\\ud800\":0\x7d"
      = .error (.malformedResponse message) := by
  have htoken : valuesOf tokenNames halfNamed = [.text [.plain 'a' (by decide)]] := rfl
  have hother : ∀ names ∈ naturalNames ++ textNames, valuesOf names halfNamed = [] := by
    simp only [naturalNames, textNames, List.cons_append, List.nil_append, List.forall_mem_cons]
    exact ⟨rfl, rfl, rfl, rfl, rfl, rfl, nofun⟩
  refine ⟨⟨?_, ?_, ?_, ?_⟩, ?_, ?_⟩
  · intro names hnames
    rcases List.mem_cons.mp hnames with rfl | hnames
    · rw [htoken]
      decide
    · rw [hother names hnames]
      decide
  · rw [htoken]
    exact ⟨_, List.mem_singleton_self _, "a", rfl, by decide⟩
  · intro names hnames
    rw [hother names (List.mem_append_left _ hnames)]
    nofun
  · intro names hnames
    rw [hother names (List.mem_append_right _ hnames)]
    nofun
  · decide +kernel
  · cases hresult : parse "\x7b\"access_token\":\"a\",\"\\ud800\":0\x7d" with
    | error f =>
      obtain ⟨message, rfl⟩ := parse_error hresult
      exact ⟨message, rfl⟩
    | ok response =>
      have hnone : (parse "\x7b\"access_token\":\"a\",\"\\ud800\":0\x7d").toOption = none := by
        decide +kernel
      rw [hresult] at hnone
      cases hnone

end TokenResponse

end PasswordGrant
