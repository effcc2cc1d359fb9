import PasswordGrant.Proofs.Json.Shape
import PasswordGrant.Proofs.Outcome
import PasswordGrant.Proofs.TokenBody
import PasswordGrant.Proofs.TokenGrant

/-!
# The shape of responses

An answer comes from an object, except that the readers of token responses, introspections and
discovery documents also take an array, element by element for the fields in order. Only the reader
of claims about a user refuses arrays. Every other document is malformed. What an answer claims comes
from one value in the document: the token and the token endpoint from a string, and that a token is
active from nothing but `true`.

* `Operation.accepts` : the shapes of responses;
* `Operation.Supported` : what an answer has from the document;
* `Operation.shape_of_answer` : answers are read from documents of these shapes, and all other documents
  are malformed;
* `Operation.introspect_active_of_array` : an array that makes a token count as active.
-/

namespace PasswordGrant

open Json Json.Written

/-! ### Reading records -/

theorem exists_entry_of_text {vs : List Value} (hone : vs.length ≤ 1) {t : Option String}
    (ht : t = vs.head?.bind (·.text?)) (hne : t.getD "" ≠ "") :
    ∃ w, vs = [w] ∧ w.text? = some (t.getD "") := by
  match vs, hone with
  | [], _ =>
    subst ht
    exact absurd rfl hne
  | [w], _ =>
    refine ⟨w, rfl, ?_⟩
    rw [List.head?_cons, Option.bind_some] at ht
    cases hw : w.text? with
    | none =>
      rw [ht, hw] at hne
      exact absurd rfl hne
    | some text =>
      rw [ht, hw]
      rfl

theorem TokenResponse.shape_of_parse {body : String} {r : TokenResponse} (h : parse body = .ok r) :
    ∃ d : Document, body = d.text ∧ (d.value.isObject || d.value.isArray) = true ∧
      r.accessToken ≠ "" ∧
      ∃ w, d.value.entries ["access_token", "AccessToken"] 0 = [w] ∧ w.text? = some r.accessToken := by
  have hparse := toOption_parse body
  rw [h] at hparse
  obtain ⟨hmap, htoken⟩ := Option.filter_eq_some_iff.mp hparse.symm
  obtain ⟨slots, hslots, rfl⟩ := Option.map_eq_some_iff.mp hmap
  have hne : (ofSlots slots).accessToken ≠ "" := of_decide_eq_true htoken
  obtain ⟨d, htext, hshape, hfields⟩ :=
    schema_isDistinct.lookup_of_parse (toOption_eq_some_iff.mp hslots)
  obtain ⟨hone, hlookup⟩ := hfields 0 (.spelled "access_token" "AccessToken" .text) rfl (by decide)
  exact ⟨d, htext, hshape, hne, exists_entry_of_text hone (Slots.text?_of_lookup (.inl hlookup)) hne⟩

theorem Introspection.schema_isDistinct : schema.IsDistinct := by
  unfold Schema.IsDistinct
  decide

/-- A token is active only by the truth value `true` that stands for its field. -/
theorem Introspection.shape_of_parse {body : String} {i : Introspection} (h : parse body = .ok i) :
    ∃ d : Document, body = d.text ∧ (d.value.isObject || d.value.isArray) = true ∧
      (i.active = true ↔ d.value.entries ["active"] 0 = [.flag true]) := by
  obtain ⟨slots, hslots, rfl⟩ := map_eq_ok.mp h
  obtain ⟨d, htext, hshape, hfields⟩ := schema_isDistinct.lookup_of_parse hslots
  obtain ⟨hone, hlookup⟩ := hfields 0 (.plain "active" .flag) rfl (by decide)
  refine ⟨d, htext, hshape, ?_⟩
  show slots.flag "active" = true ↔ d.value.entries ["active"] 0 = [.flag true]
  replace hone : (d.value.entries ["active"] 0).length ≤ 1 := hone
  replace hlookup : slots.lookup "active" = (d.value.entries ["active"] 0).head?.bind Kind.flag.slot? :=
    hlookup
  rw [Slots.flag, Slots.get, hlookup]
  generalize d.value.entries ["active"] 0 = vs at hone ⊢
  cases vs with
  | nil => simp
  | cons w more =>
    obtain rfl : more = [] := List.eq_nil_of_length_eq_zero (Nat.le_zero.mp (Nat.le_of_succ_le_succ hone))
    rw [List.head?_cons, Option.bind_some, Kind.slot?]
    cases w <;> simp [Value.flag?]

theorem Discovery.schema_isDistinct : schema.IsDistinct := by
  unfold Schema.IsDistinct
  decide

theorem parse_of_readDocument {α : Type} {what : String} {parse : String → Except Json.Fault α}
    {body : String} {x : α} (h : RealmClient.readDocument what parse body = .ok x) :
    parse body = .ok x := by
  rw [RealmClient.readDocument] at h
  split at h
  case h_1 hparse =>
    cases h
    exact hparse
  case h_2 => cases h

/-- A discovery document that is an answer names the token endpoint. -/
theorem Discovery.shape_of_readDiscovery {body : String} {document : Discovery}
    (h : RealmClient.readDiscovery body = .ok document) :
    ∃ d : Document, body = d.text ∧ (d.value.isObject || d.value.isArray) = true ∧
      document.tokenEndpoint ≠ "" ∧
      ∃ w, d.value.entries ["token_endpoint"] 2 = [w] ∧ w.text? = some document.tokenEndpoint := by
  rw [RealmClient.readDiscovery] at h
  obtain ⟨document', hdocument, h⟩ := bind_eq_ok.mp h
  split at h
  case isTrue => cases h
  case isFalse hempty =>
    cases h
    obtain ⟨slots, hslots, rfl⟩ := map_eq_ok.mp (parse_of_readDocument hdocument)
    have hne : (ofSlots slots).tokenEndpoint ≠ "" := mt String.isEmpty_iff.mpr hempty
    obtain ⟨d, htext, hshape, hfields⟩ := schema_isDistinct.lookup_of_parse hslots
    obtain ⟨hone, hlookup⟩ := hfields 2 (.plain "token_endpoint" .text) rfl (by decide)
    exact ⟨d, htext, hshape, hne,
      exists_entry_of_text hone (Slots.text?_of_lookup (.inl hlookup)) hne⟩

/-- Claims about a user are the members of an object. -/
theorem UserClaims.shape_of_parse {body : String} {claims : UserClaims} (h : parse body = .ok claims) :
    ∃ d : Document, body = d.text ∧ d.value.isObject = true ∧ Shows d.value (.object claims.members) := by
  obtain ⟨after, hread⟩ := finish_sound h
  rw [read] at hread
  split at hread
  · cases hread
  rename_i heq
  obtain ⟨before, htext⟩ := exists_blanks heq
  split at hread
  case isFalse => cases hread
  case isTrue hc =>
    obtain ⟨⟨js, rest⟩, hobject, hclaims⟩ := map_eq_ok.mp hread
    cases hclaims
    obtain ⟨inside, members, hs, hmembers⟩ := readObject_sound (fun _ _ _ => readValue_sound) hobject
    refine ⟨⟨before, .object inside members, after⟩, ?_, rfl, .object hmembers⟩
    rw [Document.text, Value.object_append, ← hs, ← hc, ← htext, String.ofList_toList]

/-! ### The operations -/

namespace Operation

/-- Whether a value has the shape of a response of an operation: an object, and, except for claims about
a user, also an array, whose elements are taken for the fields in order. -/
def accepts : Operation → Value → Bool
  | userClaims _, v => v.isObject
  | _, v => v.isObject || v.isArray

/-- What an answer has from the value that it was read from: the token and the token endpoint are texts
that are not empty, a token is active by `true` and nothing else, and claims are what members show. -/
def Supported (v : Value) : Answer → Prop
  | .grant g => g.accessToken ≠ "" ∧
      ∃ w, v.entries ["access_token", "AccessToken"] 0 = [w] ∧ w.text? = some g.accessToken
  | .introspection i => i.active = true ↔ v.entries ["active"] 0 = [.flag true]
  | .claims claims => Shows v (.object claims.members)
  | .discovery document => document.tokenEndpoint ≠ "" ∧
      ∃ w, v.entries ["token_endpoint"] 2 = [w] ∧ w.text? = some document.tokenEndpoint

theorem accepts_eq_of_text_eq (op : Operation) {d d' : Document} (h : d.text = d'.text) :
    op.accepts d.value = op.accepts d'.value := by
  have hlead := Document.lead_eq h
  have hobject : d.value.isObject = d'.value.isObject := by
    rw [Bool.eq_iff_iff, Value.isObject_iff, Value.isObject_iff, hlead]
  have harray : d.value.isArray = d'.value.isArray := by
    rw [Bool.eq_iff_iff, Value.isArray_iff, Value.isArray_iff, hlead]
  cases op <;> simp only [accepts, hobject, harray]

/-- Whatever an operation reads is a document of a shape that it accepts. -/
theorem shape_of_read {op : Operation} {now : Instant} {body : String} {a : Answer}
    (h : op.read now body = .ok a) :
    ∃ d : Document, body = d.text ∧ op.accepts d.value = true ∧ Supported d.value a := by
  cases op with
  | authenticate user =>
    obtain ⟨g, hgrant, rfl⟩ := map_eq_ok.mp h
    obtain ⟨r, hparse, rfl⟩ := map_eq_ok.mp hgrant
    obtain ⟨d, htext, hshape, hentry⟩ := TokenResponse.shape_of_parse hparse
    refine ⟨d, htext, hshape, ?_⟩
    rw [Supported, r.accessToken_toGrant now]
    exact hentry
  | introspect token =>
    obtain ⟨i, hdocument, rfl⟩ := map_eq_ok.mp h
    exact Introspection.shape_of_parse (parse_of_readDocument hdocument)
  | userClaims token =>
    obtain ⟨claims, hdocument, rfl⟩ := map_eq_ok.mp h
    exact UserClaims.shape_of_parse (parse_of_readDocument hdocument)
  | discover =>
    obtain ⟨document, hdocument, rfl⟩ := map_eq_ok.mp h
    exact Discovery.shape_of_readDiscovery hdocument

variable {c : RealmClient} {op : Operation} {url : Url}

/-- Of the responses with a successful status, an operation answers only documents of a shape that it
accepts, and every answer has what it says from the document. The response is malformed if it is any
other document: a string, a number, a truth value or `null`, and for claims about a user also an array. -/
theorem shape_of_answer (h : Handed c op url) (now : Instant) {status : Nat} (bytes : List UInt8)
    (hstatus : 200 ≤ status ∧ status ≤ 299) :
    (∀ a, (c.answer ⟨op.call, now, .answered status bytes⟩).result = .ok a → ∃ d : Document,
      Request.textOf bytes = d.text ∧ op.accepts d.value = true ∧ Supported d.value a) ∧
    ∀ d : Document, Request.textOf bytes = d.text → op.accepts d.value = false →
      ∃ message, (c.answer ⟨op.call, now, .answered status bytes⟩).result
        = .error (.malformedResponse message) := by
  rw [result_of_handed h, Request.outcome_successful hstatus]
  show (∀ a, op.read now (Request.textOf bytes) = .ok a → _) ∧ ∀ d : Document, _ → _ →
    ∃ message, op.read now (Request.textOf bytes) = .error (.malformedResponse message)
  refine ⟨fun a ha => shape_of_read ha, fun d htext hshape => ?_⟩
  cases hread : op.read now (Request.textOf bytes) with
  | error f =>
    obtain ⟨message, rfl⟩ := read_error hread
    exact ⟨message, rfl⟩
  | ok a =>
    obtain ⟨d', htext', hshape', -⟩ := shape_of_read hread
    rw [op.accepts_eq_of_text_eq (htext.symm.trans htext'), hshape'] at hshape
    cases hshape

/-- A number is no response of the realm to a question about a token. -/
theorem introspect_malformed_of_number :
    ∃ message, ((RealmClient.ofPublic "http://h" "r" "c").answer
        ⟨.introspect "t", Instant.epoch, .answered 200 [0x37]⟩).result
      = .error (.malformedResponse message) := by
  have hhanded : Handed (RealmClient.ofPublic "http://h" "r" "c") (introspect "t")
      ⟨false, "", none, .domain "h", none,
        ⟨["auth", "realms", "r", "protocol", "openid-connect", "token"], "introspect"⟩, none, none⟩ :=
    ⟨rfl, by decide +kernel⟩
  exact (shape_of_answer hhanded Instant.epoch [0x37] (show 200 ≤ 200 ∧ 200 ≤ 299 by decide)).2
    ⟨noBlanks, .number ⟨false, ⟨'7', [], rfl, List.forall_mem_nil _⟩, none, none, fun _ => rfl⟩, noBlanks⟩
    (by decide +kernel) rfl

/-- An array whose only element is `true` makes a token count as active. -/
theorem introspect_active_of_array :
    (Document.mk noBlanks (.array noBlanks [⟨noBlanks, .flag true, noBlanks⟩]) noBlanks).text
      = "[true]" ∧
    ∃ i, ((RealmClient.ofPublic "http://h" "r" "c").answer
        ⟨.introspect "t", Instant.epoch, .answered 200 (Utf8.encode "[true]".toList)⟩).result
      = .ok (.introspection i) ∧ i.active = true := by
  have hread : ((RealmClient.ofPublic "http://h" "r" "c").introspect "t"
      (.answered 200 (Utf8.encode "[true]".toList))).result
      = .ok ⟨true, none, none, none, [], none, none, none, none, none, none, none⟩ :=
    eq_ok_of_toOption (by decide +kernel)
  refine ⟨by decide +kernel,
    ⟨true, none, none, none, [], none, none, none, none, none, none, none⟩, ?_, rfl⟩
  simp only [RealmClient.answer, Report.map, hread, Except.map]

end Operation

end PasswordGrant
