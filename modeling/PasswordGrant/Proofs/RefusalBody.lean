import PasswordGrant.Proofs.Outcome
import PasswordGrant.Proofs.TokenBody

/-!
# Payloads of refusals

Servers say why they refuse in an object with an error and perhaps a description, and two families of
servers spell the two fields differently. What a refusal means is decided by its status, the error and the
description alone: the spellings, the order of the members, blanks and other members do not count, and of
the error only the code that it amounts to decides who is to blame.

* `ErrorResponse.States` : what the members of a payload state;
* `ErrorResponse.Payload` : objects that are payloads; `ErrorResponse.parse?_payload` : they are read;
* `ErrorResponse.folded` : an error without blanks around it, letter case and spaces;
* `ErrorResponse.Carries` : failures that carry an error and a description;
* `ErrorResponse.classify_payload` : what payloads mean;
* `ErrorResponse.classify_halfNamed` : a name that denotes no text keeps an object from being a payload.
-/

namespace PasswordGrant.ErrorResponse

open Json Json.Written

/-! ### Payloads -/

/-- The names of the field with the error. -/
def errorNames : List String := ["error", "Msg"]

/-- The names of the field with the description. -/
def descriptionNames : List String := ["error_description", "Description"]

/-- The text that values state which may be missing: there is none, or one that is `null` or a text. -/
inductive OptionalText : List Value → Option String → Prop
  | missing : OptionalText [] none
  | null : OptionalText [.null] none
  | text {v : Value} {t : String} (h : v.text? = some t) : OptionalText [v] (some t)

/-- The members of an object state an error, once and as a text, and a description, once at most and as a
text or `null`. -/
structure States (members : List Member) (error : String) (description : Option String) : Prop where
  error : ∃ v, valuesOf errorNames members = [v] ∧ v.text? = some error
  description : OptionalText (valuesOf descriptionNames members) description

/-- An object that is a payload: its members state an error and perhaps a description, and their names denote
texts. -/
structure Payload where
  before : Blanks
  inside : Blanks
  members : List Member
  after : Blanks
  error : String
  description : Option String
  named : TokenResponse.Named members
  states : States members error description

def Payload.text (p : Payload) : String :=
  (Document.mk p.before (.object p.inside p.members) p.after).text

/-- The description of a payload, if it is not empty. -/
def Payload.shown (p : Payload) : Option String := p.description.filter fun d => !d.isEmpty

/-! ### Reading payloads -/

theorem schema_isDistinct : schema.IsDistinct := by
  unfold Schema.IsDistinct
  decide

theorem parse?_eq (body : String) : parse? body = (schema.parse body).toOption.map fun slots =>
    ⟨(slots.text? "error").getD "", (slots.text? "error_description").filter fun s => !s.isEmpty⟩ := by
  rw [parse?]
  cases schema.parse body with
  | error f => rfl
  | ok slots => rfl

theorem OptionalText.readable {vs : List Value} {t : Option String} (h : OptionalText vs t) :
    vs.length ≤ 1 ∧ (∀ v ∈ vs, (Kind.optionalText.slot? v).isSome = true) ∧
      vs.head?.bind (·.text?) = t := by
  simp only [Kind.isSome_slot?_optionalText]
  cases h with
  | missing => exact ⟨Nat.zero_le 1, nofun, rfl⟩
  | null => exact ⟨Nat.le_refl 1, by simp, rfl⟩
  | text h => exact ⟨Nat.le_refl 1, by simp [h], h⟩

/-- The members of a payload make up a record with the error and the description. -/
theorem exists_slots (p : Payload) : ∃ slots, schema.slots? p.members = some slots ∧
    slots.text? "error" = some p.error ∧ slots.text? "error_description" = p.description := by
  obtain ⟨v, hvalue, herror⟩ := p.states.error
  obtain ⟨hone, hheld, hdescription⟩ := p.states.description.readable
  have hfields : ∀ f ∈ schema.fields,
      (f.kind.hold? (List.lookup f.name []) (f.valuesIn p.members)).isSome = true := by
    simp only [List.lookup_nil, Kind.isSome_hold?_none_iff, schema, List.forall_mem_cons,
      Field.valuesIn_eq, Field.spelled, List.not_mem_nil, false_implies, implies_true, and_true]
    refine ⟨?_, hone, hheld⟩
    rw [show valuesOf ["error", "Msg"] p.members = [v] from hvalue]
    exact ⟨Nat.le_refl 1, by simp [Kind.isSome_slot?_text, herror]⟩
  obtain ⟨slots, hgather⟩ := (schema_isDistinct.isSome_gather?_iff [] p.members).mpr ⟨p.named, hfields⟩
  have hlookup : ∀ f ∈ schema.fields,
      slots.lookup f.name = (valuesOf (f.name :: f.spellings) p.members).head?.bind f.kind.slot? := by
    intro f hf
    have hgathered := schema_isDistinct.lookup_gather? hgather hf
    rw [List.lookup_nil, Field.valuesIn_eq] at hgathered
    exact (Kind.hold?_none_eq_some_iff.mp hgathered).2.2
  have herrorSlot : slots.lookup "error"
      = (valuesOf errorNames p.members).head?.bind Kind.text.slot? :=
    hlookup ⟨"error", ["Msg"], .text, true⟩ (by decide)
  have hdescriptionSlot : slots.lookup "error_description"
      = (valuesOf descriptionNames p.members).head?.bind Kind.optionalText.slot? :=
    hlookup (.spelled "error_description" "Description" .optionalText) (by decide)
  refine ⟨slots, ?_, ?_, ?_⟩
  · have hpresent : (slots.lookup "error").isNone = false := by
      rw [herrorSlot, hvalue, List.head?_cons, Option.bind_some, Kind.slot?, herror]
      rfl
    rw [Schema.slots?, hgather, Option.filter_some]
    simp [schema, Field.spelled, hpresent]
  · rw [Slots.text?_of_lookup (.inl herrorSlot), hvalue]
    exact herror
  · rw [Slots.text?_of_lookup (.inr hdescriptionSlot)]
    exact hdescription

/-- A payload is read. -/
theorem parse?_payload (p : Payload) : parse? p.text = some ⟨p.error, p.shown⟩ := by
  obtain ⟨slots, hslots, herror, hdescription⟩ := exists_slots p
  rw [parse?_eq, Payload.text, Schema.toOption_parse_object, hslots, Option.map_some,
    herror, hdescription]
  rfl

/-! ### What payloads mean -/

/-- An error without blanks around it, in lower case, with underscores for spaces. -/
def folded (error : String) : String :=
  String.ofList
    (((Text.trimChars error.toList).map Char.toLower).map fun c => if c = ' ' then '_' else c)

theorem code_eq_folded (error : String) : code error = folded error := code_eq error

/-- The failures that carry an error and a description: wrong credentials carry the description, or else
the error; every other refusal carries the status and both. -/
inductive Carries (status : Nat) (error : String) (description : Option String) : Failure → Prop
  | credentials : Carries status error description (.invalidCredentials (description.getD error))
  | rejected : Carries status error description (.rejected status error description)

/-- Failures of the same kind at a status. -/
inductive SameKind (status : Nat) : Failure → Failure → Prop
  | credentials {m n : String} : SameKind status (.invalidCredentials m) (.invalidCredentials n)
  | rejected {e f : String} {c d : Option String} :
      SameKind status (.rejected status e c) (.rejected status f d)

theorem SameKind.category_eq {status : Nat} {f g : Failure} (h : SameKind status f g) :
    f.category = g.category := by
  cases h with
  | credentials => rfl
  | rejected => rfl

variable (status : Nat)

theorem classify_payload_eq (p : Payload) :
    classify status p.text = toFailure status ⟨p.error, p.shown⟩ := by
  rw [classify, ofBody, parse?_payload]
  rfl

theorem serverCode_payload (p : Payload) : serverCode status p.text = folded p.error := by
  rw [serverCode, serverText, parse?_payload]
  rfl

theorem carries_toFailure (r : ErrorResponse) :
    Carries status r.error r.description (r.toFailure status) := by
  rw [toFailure]
  split
  · exact .credentials
  · exact .rejected

theorem sameKind_toFailure {r q : ErrorResponse} (h : code r.error = code q.error) :
    SameKind status (r.toFailure status) (q.toFailure status) := by
  rw [toFailure, toFailure, h]
  split
  · exact .credentials
  · exact .rejected

/-- The failure that a payload means carries the error and the description, if that is not empty. It blames
the user's credentials by the status and the folded error, so that payloads whose errors are the same when
they are folded mean failures of the same kind and category. Payloads with the same error and description
mean the same failure. -/
theorem classify_payload (p q : Payload) :
    Carries status p.error p.shown (classify status p.text) ∧
    ((∃ m, classify status p.text = .invalidCredentials m) ↔
      (folded p.error ≠ "invalid_client" ∧ folded p.error ≠ "unauthorized_client") ∧
        (status = 401 ∨ folded p.error = "invalid_grant")) ∧
    (folded p.error = folded q.error →
      SameKind status (classify status p.text) (classify status q.text) ∧
        (classify status p.text).category = (classify status q.text).category) ∧
    (p.error = q.error → p.shown = q.shown → classify status p.text = classify status q.text) := by
  refine ⟨?_, ?_, fun hfolded => ?_, fun herror hshown => ?_⟩
  · rw [classify_payload_eq]
    exact carries_toFailure status ⟨p.error, p.shown⟩
  · have hclassified := (classify_classified status p.text).credentials_iff
    rwa [serverCode_payload] at hclassified
  · have hcode : code p.error = code q.error := by
      rw [code_eq, code_eq]
      exact hfolded
    have hkind : SameKind status (classify status p.text) (classify status q.text) := by
      rw [classify_payload_eq, classify_payload_eq]
      exact sameKind_toFailure status hcode
    exact ⟨hkind, hkind.category_eq⟩
  · rw [classify_payload_eq, classify_payload_eq, herror, hshown]

/-! ### Payloads as they are written -/

/-- The characters that may stand for themselves in a string. -/
def isPlain (c : Char) : Bool := decide (0x20 ≤ c.toNat ∧ c ≠ '"' ∧ c ≠ '\\')

def plainLetters (text : String) (h : text.toList.all isPlain = true) : List Letter :=
  text.toList.pmap Letter.plain fun c hc => of_decide_eq_true (List.all_eq_true.mp h c hc)

theorem denotedText?_plainLetters (text : String) (h : text.toList.all isPlain = true) :
    denotedText? (plainLetters text h) = some text := by
  have hchars : ∀ (cs : List Char) (hcs : ∀ c ∈ cs, 0x20 ≤ c.toNat ∧ c ≠ '"' ∧ c ≠ '\\'),
      denoted? (cs.pmap Letter.plain hcs) = some cs := by
    intro cs hcs
    induction cs with
    | nil => rfl
    | cons c cs ih => rw [List.pmap, denoted?, ih, Option.map_some]
  rw [denotedText?, plainLetters, hchars, Option.map_some, String.ofList_toList]

def tightMember (name : List Letter) (v : Value) : Member :=
  ⟨noBlanks, name, noBlanks, noBlanks, v, noBlanks⟩

/-- The members of an object that holds nothing but an error. -/
def bareError (error : String) (h : error.toList.all isPlain = true) : List Member :=
  [tightMember (plainLetters "error" (by decide)) (.text (plainLetters error h))]

theorem states_bareError (error : String) (h : error.toList.all isPlain = true) :
    States (bareError error h) error none :=
  ⟨⟨_, rfl, denotedText?_plainLetters error h⟩, .missing⟩

/-- An object that holds nothing but an error. -/
def barePayload (error : String) (h : error.toList.all isPlain = true) : Payload where
  before := noBlanks
  inside := noBlanks
  members := bareError error h
  after := noBlanks
  error := error
  description := none
  named := List.forall_mem_cons.mpr ⟨rfl, nofun⟩
  states := states_bareError error h

/-- An error in the other spelling, behind a member of the server's own and a description that is `null`. -/
def spelledPayload (error : String) (h : error.toList.all isPlain = true) : Payload where
  before := noBlanks
  inside := noBlanks
  members :=
    [tightMember (plainLetters "x" (by decide)) (.array noBlanks [⟨noBlanks, .null, noBlanks⟩]),
      tightMember (plainLetters "Description" (by decide)) .null,
      tightMember (plainLetters "Msg" (by decide)) (.text (plainLetters error h))]
  after := noBlanks
  error := error
  description := none
  named := by
    simp only [TokenResponse.Named, List.forall_mem_cons]
    exact ⟨rfl, rfl, rfl, nofun⟩
  states := ⟨⟨_, rfl, denotedText?_plainLetters error h⟩, .null⟩

/-- An error of two families of servers. -/
theorem sameKind_of_spellings :
    let p := barePayload "invalid_grant" (by decide)
    let q := spelledPayload " Invalid grant " (by decide)
    p.text = "\x7b\"error\":\"invalid_grant\"\x7d" ∧
      q.text = "\x7b\"x\":[null],\"Description\":null,\"Msg\":\" Invalid grant \"\x7d" ∧
      SameKind 400 (classify 400 p.text) (classify 400 q.text) := by
  intro p q
  have hfolded : folded p.error = folded q.error := by decide
  obtain ⟨-, -, hsame, -⟩ := classify_payload 400 p q
  exact ⟨by decide +kernel, by decide +kernel, (hsame hfolded).1⟩

/-- A member whose name is the first half of a surrogate pair alone. -/
def halfNamed : Member := tightMember [.unit 'd' '8' '0' '1' 0xD801 rfl] .null

/-- An object with such a member states the same error as without, but it is not read, and then the status
alone decides who is to blame. A description that is half a surrogate pair alone does the same. -/
theorem classify_halfNamed :
    States (bareError "invalid_client" (by decide)) "invalid_client" none ∧
    States (bareError "invalid_client" (by decide) ++ [halfNamed]) "invalid_client" none ∧
    (Document.mk noBlanks (.object noBlanks (bareError "invalid_client" (by decide))) noBlanks).text
      = "\x7b\"error\":\"invalid_client\"\x7d" ∧
    (Document.mk noBlanks
        (.object noBlanks (bareError "invalid_client" (by decide) ++ [halfNamed])) noBlanks).text
      = "\x7b\"error\":\"invalid_client\",\"\\ud801\":null\x7d" ∧
    classify 401 "\x7b\"error\":\"invalid_client\"\x7d" = .rejected 401 "invalid_client" none ∧
    classify 401 "\x7b\"error\":\"invalid_client\",\"\\ud801\":null\x7d"
      = .invalidCredentials "\x7b\"error\":\"invalid_client\",\"\\ud801\":null\x7d" ∧
    classify 401 "\x7b\"error\":\"invalid_client\",\"error_description\":\"\\ud801\"\x7d"
      = .invalidCredentials
          "\x7b\"error\":\"invalid_client\",\"error_description\":\"\\ud801\"\x7d" := by
  refine ⟨states_bareError .., ⟨⟨_, rfl, rfl⟩, .missing⟩, ?_, ?_, ?_, ?_, ?_⟩
  · decide +kernel
  · decide +kernel
  · decide +kernel
  · decide +kernel
  · decide +kernel

end PasswordGrant.ErrorResponse
