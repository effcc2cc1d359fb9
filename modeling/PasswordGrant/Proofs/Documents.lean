import PasswordGrant.Proofs.Audience
import PasswordGrant.Proofs.Json.Roundtrip

/-!
# Documents that are written and read again

What a server says about a token and what a realm says about itself are documents that can be written
as well as read. What was written is read again without change: every field of an answer or a discovery
document has its own member, which holds what was written for it. An answer that was read can be
written, whatever document it was read from, so that writing and reading it once more changes nothing.

* `Introspection.Fits` : the answers that there are;
* `Introspection.parse_compact`, `Discovery.parse_compact` : what was written is read again;
* `Introspection.fits_of_parse` : what was read can be written;
* `Introspection.documents_read_back` : both, and all ways to state an audience.
-/

namespace PasswordGrant

open Json Json.Written

namespace Discovery

/-- The fields of a document. -/
def slots (d : Discovery) : Slots :=
  [("issuer", .text d.issuer), ("authorization_endpoint", .text d.authorizationEndpoint),
   ("token_endpoint", .text d.tokenEndpoint),
   ("introspection_endpoint", .text d.introspectionEndpoint),
   ("userinfo_endpoint", .text d.userinfoEndpoint),
   ("end_session_endpoint", .text d.endSessionEndpoint),
   ("grant_types_supported", .texts d.grantTypesSupported),
   ("response_types_supported", .texts d.responseTypesSupported),
   ("response_modes_supported", .texts d.responseModesSupported),
   ("claims_supported", .texts d.claimsSupported),
   ("claim_types_supported", .texts d.claimTypesSupported),
   ("code_challenge_methods_supported", .texts d.codeChallengeMethodsSupported)]

theorem ofSlots_slots (d : Discovery) : ofSlots d.slots = d := rfl

/-- A document is read again as it was written. -/
theorem parse_compact (d : Discovery) : parse d.toJson.compact = .ok d := by
  have hwrites : Schema.Writes schema.fields d.slots _ :=
    .cons (.text d.issuer) <| .cons (.text d.authorizationEndpoint) <| .cons (.text d.tokenEndpoint) <|
    .cons (.text d.introspectionEndpoint) <| .cons (.text d.userinfoEndpoint) <|
    .cons (.text d.endSessionEndpoint) <| .cons (.texts d.grantTypesSupported) <|
    .cons (.texts d.responseTypesSupported) <| .cons (.texts d.responseModesSupported) <|
    .cons (.texts d.claimsSupported) <| .cons (.texts d.claimTypesSupported) <|
    .cons (.texts d.codeChallengeMethodsSupported) .nil
  have hslots : schema.parse d.toJson.compact = .ok d.slots :=
    schema_isDistinct.parse_compact (by decide) (by decide) hwrites
  rw [parse, hslots]
  exact congrArg Except.ok (ofSlots_slots d)

end Discovery

namespace Introspection

/-! ### Numbers within 64 bits -/

/-- The numbers that fields of an answer hold. -/
def InRange (x : Int) : Prop := -0x8000000000000000 ≤ x ∧ x < 0x8000000000000000

theorem inRange_of_toInt? {x : Json.Number} (h : x.Kept) {i : Int} (hx : x.toInt? = some i) : InRange i := by
  cases h with
  | @natural n h =>
    rw [Number.toInt?] at hx
    split at hx
    case isTrue hn =>
      cases hx
      exact ⟨by omega, by omega⟩
    case isFalse => cases hx
  | @negative i hsign h =>
    cases hx
    exact ⟨h, by omega⟩

theorem inRange_of_lookup {slots : Slots} {name : String} {v : Option Value}
    (h : slots.lookup name = v.bind Kind.optionalInteger.slot?) : ∀ x ∈ slots.integer? name, InRange x := by
  intro x hx
  rw [Slots.integer?_of_lookup h] at hx
  obtain ⟨w, -, hx⟩ := Option.bind_eq_some_iff.mp hx
  obtain ⟨y, hy, hx⟩ := Option.bind_eq_some_iff.mp hx
  exact inRange_of_toInt? (Value.kept_of_number? hy) hx

/-! ### Answers about tokens -/

/-- The answers that there are: their numbers have 64 bits with a sign. -/
structure Fits (i : Introspection) : Prop where
  exp : ∀ x ∈ i.exp, InRange x
  nbf : ∀ x ∈ i.nbf, InRange x
  iat : ∀ x ∈ i.iat, InRange x
  authTime : ∀ x ∈ i.authTime, InRange x

theorem writes_integerJson {x : Option Int} (h : ∀ y ∈ x, InRange y) :
    Kind.optionalInteger.Writes (.ofOption .integer x) (integerJson x) := by
  cases x with
  | none => exact .noInteger
  | some y =>
    obtain ⟨hlow, hhigh⟩ := h y rfl
    rw [integerJson]
    split
    case isTrue hsign => exact .optionalInteger (.negative hsign hlow) rfl
    case isFalse hsign =>
      refine .optionalInteger (.natural (by omega)) ?_
      rw [Number.toInt?, if_pos (by omega)]
      exact congrArg some (Int.toNat_of_nonneg (Int.not_lt.mp hsign))

theorem writes_textJson (t : Option String) :
    Kind.optionalText.Writes (.ofOption .text t) (textJson t) := by
  cases t with
  | none => exact .noText
  | some s => exact .optionalText s

/-- The fields of an answer. -/
def slots (i : Introspection) : Slots :=
  [("active", .flag i.active), ("exp", .ofOption .integer i.exp), ("nbf", .ofOption .integer i.nbf),
   ("iat", .ofOption .integer i.iat), ("aud", .texts i.aud),
   ("auth_time", .ofOption .integer i.authTime), ("jti", .ofOption .text i.jti),
   ("typ", .ofOption .text i.tokenType), ("sub", .ofOption .text i.sub),
   ("scope", .ofOption .text i.scope), ("username", .ofOption .text i.username),
   ("client_id", .ofOption .text i.clientId)]

theorem ofSlots_slots (i : Introspection) : ofSlots i.slots = i := by
  obtain ⟨active, exp, nbf, iat, aud, authTime, jti, tokenType, sub, scope, username, clientId⟩ := i
  rw [ofSlots]
  congr 1
  · exact Slots.integer?_of_get rfl
  · exact Slots.integer?_of_get rfl
  · exact Slots.integer?_of_get rfl
  · exact Slots.integer?_of_get rfl
  · exact Slots.text?_of_get rfl
  · exact Slots.text?_of_get rfl
  · exact Slots.text?_of_get rfl
  · exact Slots.text?_of_get rfl
  · exact Slots.text?_of_get rfl
  · exact Slots.text?_of_get rfl

/-- An answer is read again as it was written. -/
theorem parse_compact {i : Introspection} (h : i.Fits) : parse i.toJson.compact = .ok i := by
  have hwrites : Schema.Writes schema.fields i.slots _ :=
    .cons (.flag i.active) <| .cons (writes_integerJson h.exp) <| .cons (writes_integerJson h.nbf) <|
    .cons (writes_integerJson h.iat) <| .cons (.audience i.aud) <|
    .cons (writes_integerJson h.authTime) <| .cons (writes_textJson i.jti) <|
    .cons (writes_textJson i.tokenType) <| .cons (writes_textJson i.sub) <|
    .cons (writes_textJson i.scope) <| .cons (writes_textJson i.username) <|
    .cons (writes_textJson i.clientId) .nil
  have hslots : schema.parse i.toJson.compact = .ok i.slots :=
    schema_isDistinct.parse_compact (by decide) required_eq_false hwrites
  rw [parse, hslots]
  exact congrArg Except.ok (ofSlots_slots i)

theorem fits_of_parse {body : String} {i : Introspection} (h : parse body = .ok i) : i.Fits := by
  obtain ⟨slots, hslots, rfl⟩ := map_eq_ok.mp h
  obtain ⟨d, -, -, hfields⟩ := schema_isDistinct.lookup_of_parse hslots
  have hinteger : ∀ place name, schema.fields[place]? = some (.plain name .optionalInteger) →
      (∀ g ∈ schema.fields.take place, g.name ≠ name) → ∀ x ∈ slots.integer? name, InRange x :=
    fun place name hf hfirst => inRange_of_lookup (hfields place _ hf hfirst).2
  exact ⟨hinteger 1 "exp" rfl (by decide), hinteger 2 "nbf" rfl (by decide),
    hinteger 3 "iat" rfl (by decide), hinteger 5 "auth_time" rfl (by decide)⟩

end Introspection

/-! ### Both documents -/

/-- What is written is read again: every answer about a token and every discovery document. Whatever else
an answer holds, an audience that is one text is read as the list of this text, and `null` and a missing
audience as the empty list. An answer that was read is the same once it was written and read again. -/
theorem documents_read_back :
    (∀ i : Introspection, i.Fits → Introspection.parse i.toJson.compact = .ok i) ∧
    (∀ d : Discovery, Discovery.parse d.toJson.compact = .ok d) ∧
    (∀ (o : Introspection.Surroundings) (m m' : Member), denotedText? m.name = some "aud" →
      denotedText? m'.name = some "aud" → Introspection.SameAudience m.value m'.value →
      (Introspection.parse (o.around [m]).text).toOption
        = (Introspection.parse (o.around [m']).text).toOption) ∧
    (∀ (o : Introspection.Surroundings) (m : Member), denotedText? m.name = some "aud" →
      (m.value = .null ∨ ∃ inside, m.value = .array inside []) →
      (∀ n ∈ o.front ++ o.back, denotedText? n.name ≠ some "aud") →
      (Introspection.parse (o.around []).text).toOption
        = (Introspection.parse (o.around [m]).text).toOption) ∧
    ∀ body i, Introspection.parse body = .ok i → Introspection.parse i.toJson.compact = .ok i := by
  refine ⟨fun i => Introspection.parse_compact, Discovery.parse_compact,
    fun o m m' => Introspection.parse_of_sameAudience, fun o m hm hvalue hother => ?_,
    fun body i h => Introspection.parse_compact (Introspection.fits_of_parse h)⟩
  refine Introspection.parse_of_missing hm ?_ hother
  rcases hvalue with hnull | ⟨inside, harray⟩
  · rw [hnull]
    rfl
  · rw [harray]
    rfl

/-- An answer with a quote, a control and a number below zero, and documents with one audience or none. -/
theorem documents_read_back_samples :
    let i : Introspection := ⟨true, some (-5), none, some 0, ["a\"b", ""], none, some "\n",
      some "Bearer", none, none, some "é", none⟩
    Introspection.parse i.toJson.compact = .ok i ∧
    (Introspection.parse "\x7b\"aud\":\"x\"\x7d").toOption
      = (Introspection.parse "\x7b\"aud\":[\"x\"]\x7d").toOption ∧
    (Introspection.parse "\x7b\x7d").toOption = (Introspection.parse "\x7b\"aud\":null\x7d").toOption ∧
    ∃ j, Introspection.parse "\x7b\"aud\":\"x\"\x7d" = .ok j ∧ j.aud = ["x"] ∧
      Introspection.parse j.toJson.compact = .ok j := by
  intro i
  obtain ⟨hwritten, -, hsame, hmissing, hagain⟩ := documents_read_back
  have hfits : i.Fits := ⟨by simp [i, Introspection.InRange], nofun,
    by simp [i, Introspection.InRange], nofun⟩
  let o : Introspection.Surroundings := ⟨noBlanks, noBlanks, [], [], noBlanks⟩
  let x : List Letter := [.plain 'x' (by decide)]
  let audience (v : Value) : Member := ⟨noBlanks,
    [.plain 'a' (by decide), .plain 'u' (by decide), .plain 'd' (by decide)], noBlanks, noBlanks, v, noBlanks⟩
  have hforms := hsame o (audience (.text x))
    (audience (.array noBlanks [⟨noBlanks, .text x, noBlanks⟩])) rfl rfl
    (.single rfl noBlanks noBlanks noBlanks)
  have hnull := hmissing o (audience .null) rfl (.inl rfl) nofun
  have hread : Introspection.parse "\x7b\"aud\":\"x\"\x7d"
      = .ok ⟨false, none, none, none, ["x"], none, none, none, none, none, none, none⟩ :=
    eq_ok_of_toOption (by decide +kernel)
  exact ⟨hwritten i hfits, hforms, hnull, _, hread, rfl, hagain _ _ hread⟩

end PasswordGrant
