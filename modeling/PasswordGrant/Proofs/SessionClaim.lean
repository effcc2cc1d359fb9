import PasswordGrant.Proofs.Base64Url
import PasswordGrant.Proofs.Json.Lookup
import PasswordGrant.Proofs.TokenGrant

/-!
# Where a session is named

A grant names the session that the answer of the server states, or else one that its token claims, or
else none. Claims are read from a token only if it is written as tokens with claims are: three parts, the
middle one an object in base64. Padding behind the middle part is let through, and a claim that is empty
or no text counts as missing.

* `Text.splitOn_eq_three_iff` : texts of three parts;
* `SessionClaim.dropPadding_eq_iff` : what padding is taken away from;
* `SessionClaim.written` : tokens with claims; `SessionClaim.claims?_eq_some_iff` : no other token has any;
* `TokenResponse.firstFilled` : the first text of several that is there and not empty;
* `TokenResponse.sessionId_resolved` : the session of a grant.
-/

namespace PasswordGrant

/-! ### Three parts -/

/-- A text falls into three parts at two separators. -/
theorem Text.splitOn_eq_three_iff {separator : Char} {cs first middle last : List Char} :
    splitOn (· == separator) cs = [first, middle, last]
      ↔ cs = first ++ separator :: (middle ++ separator :: last) ∧
        separator ∉ first ∧ separator ∉ middle ∧ separator ∉ last := by
  constructor
  · intro h
    have htext := join_splitOn separator cs
    have hfree : ∀ part ∈ [first, middle, last], separator ∉ part := by
      intro part hpart hmem
      rw [← h] at hpart
      have hsame := not_isSeparator_of_mem_splitOn part hpart separator hmem
      simp at hsame
    rw [h] at htext
    simp only [List.forall_mem_cons] at hfree
    exact ⟨htext.symm, hfree.1, hfree.2.1, hfree.2.2.1⟩
  · rintro ⟨rfl, hfirst, hmiddle, hlast⟩
    have hfree : ∀ part : List Char, separator ∉ part → ∀ c ∈ part, (c == separator) = false := by
      intro part hpart c hc
      rw [beq_eq_false_iff_ne]
      rintro rfl
      exact hpart hc
    rw [splitOn_append_cons _ (hfree first hfirst) (beq_self_eq_true separator),
      splitOn_append_cons _ (hfree middle hmiddle) (beq_self_eq_true separator),
      splitOn_eq_singleton (hfree last hlast)]

/-! ### Tokens with claims -/

namespace SessionClaim

/-- Padding is taken away from its beginning on, and nothing else is. -/
theorem dropPadding_eq_iff {cs core : List Char} (h : '=' ∉ core) :
    dropPadding cs = core ↔ ∃ padding, cs = core ++ List.replicate padding '=' := by
  rw [dropPadding, List.reverse_eq_iff]
  constructor
  · intro hcore
    have hwhole := List.takeWhile_append_dropWhile (p := (· == '=')) (l := cs.reverse)
    have hpadding : ∀ c ∈ cs.reverse.takeWhile (· == '='), c = '=' := fun c hc =>
      beq_iff_eq.mp (List.all_eq_true.mp List.all_takeWhile c hc)
    refine ⟨(cs.reverse.takeWhile (· == '=')).length, ?_⟩
    rw [hcore, List.eq_replicate_of_mem hpadding] at hwhole
    have hreversed := congrArg List.reverse hwhole
    rw [List.reverse_append, List.reverse_reverse, List.reverse_reverse, List.reverse_replicate]
      at hreversed
    exact hreversed.symm
  · rintro ⟨padding, rfl⟩
    rw [List.reverse_append, List.reverse_replicate, List.dropWhile_append_of_pos]
    · cases hcore : core.reverse with
      | nil => rfl
      | cons c rest =>
        have hc : c ≠ '=' := by
          rintro rfl
          exact h (List.mem_reverse.mp (hcore ▸ List.mem_cons_self))
        rw [List.dropWhile_cons_of_neg (by simpa using hc)]
    · intro c hc
      rw [List.eq_of_mem_replicate hc]
      rfl

/-- A token with a text as its claims: the text in base64, with any padding behind it, between a header
and a signature. -/
def written (header text : String) (padding : Nat) (signature : String) : String :=
  String.ofList (header.toList ++ '.' ::
    (Base64.encodeUrl (Utf8.encode text.toList) ++ List.replicate padding '=' ++ '.' ::
      signature.toList))

/-- Claims are read from a token exactly if it is written with a text that is read as an object. -/
theorem claims?_eq_some_iff {token : String} {members : List (String × Json)} :
    claims? token = some members ↔ ∃ header text padding signature,
      '.' ∉ header.toList ∧ '.' ∉ signature.toList ∧ token = written header text padding signature ∧
        Json.parse text = .ok (.object members) := by
  constructor
  · intro h
    unfold claims? at h
    split at h
    case h_2 => cases h
    case h_1 header middle signature hparts =>
      obtain ⟨htoken, hheader, -, hsignature⟩ := Text.splitOn_eq_three_iff.mp hparts
      obtain ⟨bytes, hbytes, h⟩ := Option.bind_eq_some_iff.mp h
      obtain ⟨cs, hcs, h⟩ := Option.bind_eq_some_iff.mp h
      split at h
      case h_2 => cases h
      case h_1 hparse =>
        cases h
        rw [Base64.decodeUrl?_eq_some_iff, Utf8.decode?_eq_some_iff.mp hcs,
          dropPadding_eq_iff (Base64.not_mem_encodeUrl _).1] at hbytes
        obtain ⟨padding, rfl⟩ := hbytes
        refine ⟨String.ofList header, String.ofList cs, padding, String.ofList signature, ?_, ?_, ?_,
          hparse⟩
        · rwa [String.toList_ofList]
        · rwa [String.toList_ofList]
        · rw [written, String.toList_ofList, String.toList_ofList, String.toList_ofList, ← htoken,
            String.ofList_toList]
  · rintro ⟨header, text, padding, signature, hheader, hsignature, rfl, hparse⟩
    have hfree := Base64.not_mem_encodeUrl (Utf8.encode text.toList)
    have hmiddle : '.' ∉ Base64.encodeUrl (Utf8.encode text.toList) ++ List.replicate padding '=' := by
      rw [List.mem_append]
      rintro (hmem | hmem)
      · exact hfree.2 hmem
      · exact absurd (List.eq_of_mem_replicate hmem) (by decide)
    have hdropped : dropPadding (Base64.encodeUrl (Utf8.encode text.toList)
        ++ List.replicate padding '=') = Base64.encodeUrl (Utf8.encode text.toList) :=
      (dropPadding_eq_iff hfree.1).mpr ⟨padding, rfl⟩
    rw [claims?, written, String.toList_ofList,
      Text.splitOn_eq_three_iff.mpr ⟨rfl, hheader, hmiddle, hsignature⟩]
    simp only [hdropped, Base64.decodeUrl?_eq_some_iff.mpr rfl, Utf8.decode?_encode,
      Option.bind_eq_bind, Option.bind_some, String.ofList_toList, hparse]

/-- A claim that is a text. -/
def claim? (name token : String) : Option String :=
  (claims? token).bind fun members => (Json.memberOf? name members).bind Json.text?

theorem textClaim?_of_parse {before inside after : Json.Written.Blanks}
    {members : List Json.Written.Member} {js : List (String × Json)}
    (h : Json.parse (Json.Written.Document.mk before (.object inside members) after).text
      = .ok (.object js)) (name : String) :
    textClaim? name js = (Json.lastText? name members).filter fun s => !s.isEmpty := by
  rw [textClaim?, Json.text?_memberOf?_of_parse h]

end SessionClaim

/-! ### The session of a grant -/

namespace TokenResponse

/-- The first of several texts that is there and not empty; the empty text if none is. -/
def firstFilled (texts : List (Option String)) : String :=
  ((texts.filterMap id).find? fun s => !s.isEmpty).getD ""

theorem firstFilled_cons (text : Option String) (texts : List (Option String)) :
    firstFilled (text :: texts) = (text.filter fun s => !s.isEmpty).getD (firstFilled texts) := by
  cases text with
  | none => rfl
  | some s =>
    show ((s :: texts.filterMap id).find? fun s => !s.isEmpty).getD "" = _
    rw [List.find?_cons, Option.filter_some]
    cases s.isEmpty <;> rfl

/-- The session of an answer is the first that is named at all. -/
theorem sessionId_eq_firstFilled (r : TokenResponse) :
    r.sessionId = firstFilled [r.sessionState, SessionClaim.claim? "sid" r.accessToken,
      SessionClaim.claim? "session_state" r.accessToken] := by
  have hnone : firstFilled [] = "" := rfl
  rw [sessionId, firstFilled_cons, firstFilled_cons, firstFilled_cons, hnone, SessionClaim.find?,
    SessionClaim.claim?, SessionClaim.claim?]
  cases r.sessionState.filter fun s => !s.isEmpty with
  | some s => rfl
  | none =>
    rw [Option.none_or, Option.getD_none]
    cases SessionClaim.claims? r.accessToken with
    | none => rfl
    | some members =>
      show ((SessionClaim.textClaim? "sid" members).or
        (SessionClaim.textClaim? "session_state" members)).getD "" = _
      rw [Option.getD_or]
      rfl

/-- The session of a grant is the first of three texts that is there and not empty: what the answer
states, and the claims `sid` and `session_state` of the token, as far as they are texts. The token has
claims exactly if it is written with a text that is read as an object: in base64 without unused bits,
behind which padding is let through, between a header and a signature that hold no point. Whatever
object that text is, of each claim the last one that is written counts, and it is passed over if it is
empty or no text. -/
theorem sessionId_resolved :
    (∀ (r : TokenResponse) (now : Instant), (r.toGrant now).sessionId
      = firstFilled [r.sessionState, SessionClaim.claim? "sid" r.accessToken,
          SessionClaim.claim? "session_state" r.accessToken]) ∧
    (∀ token members, SessionClaim.claims? token = some members ↔
      ∃ header text padding signature, '.' ∉ header.toList ∧ '.' ∉ signature.toList ∧
        token = SessionClaim.written header text padding signature ∧
        Json.parse text = .ok (.object members)) ∧
    ∀ text js, Json.parse text = .ok (.object js) →
      (∃ before inside after members,
        text = (Json.Written.Document.mk before (.object inside members) after).text) ∧
      ∀ before inside after members,
        text = (Json.Written.Document.mk before (.object inside members) after).text →
        ∀ header padding signature, '.' ∉ header.toList → '.' ∉ signature.toList →
          SessionClaim.find? (SessionClaim.written header text padding signature)
            = ((Json.lastText? "sid" members).filter fun s => !s.isEmpty).or
                ((Json.lastText? "session_state" members).filter fun s => !s.isEmpty) := by
  refine ⟨fun r now => ?_, fun token members => SessionClaim.claims?_eq_some_iff, ?_⟩
  · rw [sessionId_toGrant, sessionId_eq_firstFilled]
  intro text js hparse
  obtain ⟨before, inside, after, members, htext⟩ := Json.exists_object_of_parse hparse
  refine ⟨⟨before, inside, after, members, htext⟩, ?_⟩
  intro before inside after members htext header padding signature hheader hsignature
  have hclaims : SessionClaim.claims? (SessionClaim.written header text padding signature) = some js :=
    SessionClaim.claims?_eq_some_iff.mpr
      ⟨header, text, padding, signature, hheader, hsignature, rfl, hparse⟩
  rw [htext] at hparse
  rw [SessionClaim.find?, hclaims, Option.bind_eq_bind, Option.bind_some,
    SessionClaim.textClaim?_of_parse hparse, SessionClaim.textClaim?_of_parse hparse]

/-- An empty session is stated, the first claim `sid` is a number and the second one a text; the header
and the signature are empty, and the padding is longer than any base64 needs. -/
theorem sessionId_of_repeated_claim :
    let claims := "\x7b\"session_state\":\"b\",\"sid\":1,\"sid\":\"a\"\x7d"
    let r : TokenResponse := ⟨SessionClaim.written "" claims 5 "", none, none, none, none, some "", none⟩
    (r.toGrant Instant.epoch).sessionId = "a" ∧ SessionClaim.find? r.accessToken = some "a" := by
  intro claims r
  have hchecked : ((Json.parse claims).toOption.bind Json.members?).bind
      (fun js => (Json.memberOf? "sid" js).bind Json.text?) = some "a" := by decide +kernel
  obtain ⟨js, hjs, hsid⟩ := Option.bind_eq_some_iff.mp hchecked
  obtain ⟨j, hj, hmembers⟩ := Option.bind_eq_some_iff.mp hjs
  obtain rfl : j = .object js := by
    cases j with
    | object members => rw [Option.some.inj hmembers]
    | _ => cases hmembers
  have hparse : Json.parse claims = .ok (.object js) := eq_ok_of_toOption hj
  obtain ⟨hsession, hclaims, hwritten⟩ := sessionId_resolved
  have hread : SessionClaim.claims? r.accessToken = some js :=
    (hclaims _ _).mpr ⟨"", claims, 5, "", by decide, by decide, rfl, hparse⟩
  refine ⟨?_, ?_⟩
  · rw [hsession, SessionClaim.claim?, hread, Option.bind_some, hsid]
    rfl
  · obtain ⟨⟨before, inside, after, members, htext⟩, hfind⟩ := hwritten claims js hparse
    rw [hfind before inside after members htext "" 5 "" (by decide) (by decide)]
    rw [htext] at hparse
    rw [← Json.text?_memberOf?_of_parse hparse, hsid]
    rfl

end TokenResponse

end PasswordGrant
