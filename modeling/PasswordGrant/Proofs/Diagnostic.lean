import PasswordGrant.Proofs.RefusalBody

/-!
# What a refusal tells

A refusal should leave a text that says why. If the body is no payload there is always one: the beginning of
the body, or, for a blank body, the reason phrase of the status, or words for a status without one. If the
body is a payload, its own words are told as they are, and nothing replaces them. So the text is blank
exactly if the payload's words are: a blank error is told unless a description takes its place, which it
does only where wrong credentials are blamed, and a description of blanks is taken for a description.

* `Failure.diagnostic?` : the text that tells why a server refused;
* `ErrorResponse.standIn` : the words for a status, never blank and always short (`standIn_readable`);
* `ErrorResponse.Excerpt` : what is told of a body that is no payload; `ErrorResponse.excerpt_spec`;
* `ErrorResponse.Unexplained` : payloads whose words are blank where they are told;
* `ErrorResponse.diagnostic_classify` : every refusal tells a text, and when it is blank;
* `ErrorResponse.classify_unexplained` : payloads that explain nothing.
-/

namespace PasswordGrant

/-- The text of a failure that tells why a server refused: the message where the credentials are wrong, and
else the error. -/
def Failure.diagnostic? : Failure → Option String
  | .invalidCredentials message => some message
  | .rejected _ error _ => some error
  | _ => none

/-! ### Bodies that are no payloads -/

theorem Status.reason?_readable {status : Nat} {phrase : String} (h : reason? status = some phrase) :
    Text.isBlankText phrase = false ∧ phrase.length ≤ 200 := by
  unfold reason? at h
  split at h
  all_goals cases h
  all_goals decide +kernel

namespace ErrorResponse

/-- The words for a status: its reason phrase, or that the error is unknown. -/
def standIn (status : Nat) : String := (Status.reason? status).getD "unknown error"

theorem standIn_readable (status : Nat) :
    Text.isBlankText (standIn status) = false ∧ (standIn status).length ≤ 200 := by
  rw [standIn]
  cases hphrase : Status.reason? status with
  | none => exact ⟨by decide, by decide⟩
  | some phrase => exact Status.reason?_readable hphrase

/-- What is told of a body that is no payload: as much as fits of the beginning of the trimmed body, or the
words for the status if the body is blank. -/
inductive Excerpt (status : Nat) (body : String) : String → Prop
  | beginning {told : String} (hbody : Text.isBlankText body = false)
      (hfront : told.toList <+: (Text.trim body).toList)
      (hlength : told.length = min 200 (Text.trim body).length) : Excerpt status body told
  | standIn (hbody : Text.isBlankText body = true) : Excerpt status body (standIn status)

theorem excerpt_eq (status : Nat) (body : String) :
    excerpt status body = if Text.isBlankText body then standIn status
      else String.ofList ((Text.trim body).toList.take excerptLimit) := by
  have htrim : (Text.trim body).toList = Text.trimChars body.toList := String.toList_ofList
  have hempty : (Text.trimChars body.toList).isEmpty = Text.isBlankText body := by
    rw [← (Text.isTrimmed_trim body).isEmpty_eq, ← htrim, Bool.eq_iff_iff, List.isEmpty_iff,
      String.isEmpty_iff, String.toList_eq_nil_iff]
  rw [htrim, ← hempty]
  rfl

/-- What is told of a body that is no payload is not blank, and it is short. -/
theorem Excerpt.readable {status : Nat} {body told : String} (h : Excerpt status body told) :
    Text.isBlankText told = false ∧ told.length ≤ 200 := by
  cases h with
  | standIn hbody => exact standIn_readable status
  | beginning hbody hfront hlength =>
    obtain ⟨rest, hrest⟩ := hfront
    cases hchars : told.toList with
    | nil =>
      -- a body that is not blank has a beginning
      have hlost : told.length = 0 := by
        rw [← String.length_toList, hchars]
        rfl
      have hempty : Text.trim body = "" := by
        apply String.length_eq_zero_iff.mp
        omega
      rw [Text.trim_eq_empty_iff.mp hempty] at hbody
      cases hbody
    | cons c cs =>
      have hfirst : (Text.trim body).toList.head? = some c := by
        rw [← hrest, hchars]
        rfl
      have hc : Text.isBlank c = false := (Text.isTrimmed_trim body).first c hfirst
      have htold : told.toList.head? = some c := by
        rw [hchars]
        rfl
      exact ⟨Text.isBlankText_eq_false htold hc, by omega⟩

theorem excerpt_spec (status : Nat) (body : String) : Excerpt status body (excerpt status body) := by
  rw [excerpt_eq]
  split
  case isTrue hblank => exact .standIn hblank
  case isFalse hfilled =>
    refine .beginning (Bool.eq_false_iff.mpr hfilled) ?_ ?_
    · rw [String.toList_ofList]
      exact List.take_prefix _ _
    · rw [String.length_ofList, List.length_take, String.length_toList]
      rfl

/-! ### Payloads -/

/-- The words of a payload are blank where they are told: either the error is, and no description is told in
its place, or the description is and it is told because the user's credentials are blamed. -/
inductive Unexplained (status : Nat) (payload : ErrorResponse) : Prop
  | error (hblank : Text.isBlankText payload.error = true)
      (hbare : status = 401 → payload.description = none)
  | description {description : String} (hgiven : payload.description = some description)
      (hblank : Text.isBlankText description = true)
      (hblame : BlamesUser status (folded payload.error))

variable {status : Nat} {payload : ErrorResponse}

theorem folded_of_blank {error : String} (h : Text.isBlankText error = true) : folded error = "" := by
  have htrim : Text.trimChars error.toList = [] := by
    rw [← String.toList_eq_nil_iff.mpr (Text.trim_eq_empty_iff.mpr h)]
    exact String.toList_ofList.symm
  rw [folded, htrim]
  rfl

theorem blamesUser_of_blank {error : String} (h : Text.isBlankText error = true) :
    BlamesUser status (folded error) ↔ status = 401 := by
  rw [folded_of_blank h, BlamesUser]
  simp

/-- Without a description the error is told. -/
theorem diagnostic?_of_bare (h : payload.description = none) :
    (payload.toFailure status).diagnostic? = some payload.error := by
  by_cases hblame : BlamesUser status (code payload.error)
  · rw [toFailure_of_blamesUser hblame, h]
    rfl
  · rw [toFailure_of_not_blamesUser hblame]
    rfl

theorem diagnostic?_of_blamesUser {description : String}
    (hblame : BlamesUser status (folded payload.error)) (h : payload.description = some description) :
    (payload.toFailure status).diagnostic? = some description := by
  rw [toFailure_of_blamesUser (by rwa [code_eq_folded]), h]
  rfl

theorem diagnostic?_of_not_blamesUser (hblame : ¬BlamesUser status (folded payload.error)) :
    (payload.toFailure status).diagnostic? = some payload.error := by
  rw [toFailure_of_not_blamesUser (by rwa [code_eq_folded])]
  rfl

/-- The words of a payload are told, and what is told is blank exactly if they explain nothing. -/
theorem diagnostic_toFailure (status : Nat) (payload : ErrorResponse) :
    ∃ told, (payload.toFailure status).diagnostic? = some told ∧
      (Text.isBlankText told = true ↔ Unexplained status payload) := by
  cases hgiven : payload.description with
  | none =>
    refine ⟨payload.error, diagnostic?_of_bare hgiven, ?_⟩
    constructor
    · intro hblank
      exact .error hblank fun _ => hgiven
    · intro h
      cases h with
      | error hblank _ => exact hblank
      | description hgiven' => rw [hgiven] at hgiven'; cases hgiven'
  | some description =>
    by_cases hblame : BlamesUser status (folded payload.error)
    case pos =>
      refine ⟨description, diagnostic?_of_blamesUser hblame hgiven, ?_⟩
      constructor
      · intro hblank
        exact .description hgiven hblank hblame
      · intro h
        cases h with
        | error hblank hbare =>
          -- a blank error is replaced by the description
          have hnone := hbare ((blamesUser_of_blank hblank).mp hblame)
          rw [hgiven] at hnone
          cases hnone
        | description hgiven' hblank =>
          rw [hgiven] at hgiven'
          cases hgiven'
          exact hblank
    case neg =>
      refine ⟨payload.error, diagnostic?_of_not_blamesUser hblame, ?_⟩
      constructor
      · intro hblank
        exact .error hblank fun hstatus => absurd ((blamesUser_of_blank hblank).mpr hstatus) hblame
      · intro h
        cases h with
        | error hblank _ => exact hblank
        | description _ _ hblame' => exact absurd hblame' hblame

/-! ### Every refusal -/

/-- Every refusal tells a text. It is blank exactly if the body is a payload that explains nothing. Of a body
that is no payload it is at most 200 characters long, and it is the beginning of the trimmed body, or the
words for the status if the body is blank. -/
theorem diagnostic_classify (status : Nat) (body : String) :
    ∃ told, (classify status body).diagnostic? = some told ∧
      (Text.isBlankText told = true ↔
        ∃ payload, parse? body = some payload ∧ Unexplained status payload) ∧
      (parse? body = none → told.length ≤ 200 ∧ Excerpt status body told) := by
  rw [classify, ofBody]
  cases hbody : parse? body with
  | none =>
    have hexcerpt := excerpt_spec status body
    obtain ⟨hfilled, hshort⟩ := hexcerpt.readable
    refine ⟨excerpt status body, diagnostic?_of_bare rfl, ?_, fun _ => ⟨hshort, hexcerpt⟩⟩
    simp [hfilled]
  | some payload =>
    obtain ⟨told, htold, hblank⟩ := diagnostic_toFailure status payload
    refine ⟨told, htold, ?_, ?_⟩
    · rw [hblank]
      constructor
      · intro h
        exact ⟨payload, rfl, h⟩
      · rintro ⟨payload', hpayload, h⟩
        cases hpayload
        exact h
    · intro hraw
      cases hraw

/-- A blank body is no payload, and the status speaks for it. -/
theorem diagnostic_of_blank_body :
    parse? " \n" = none ∧ (classify 502 " \n").diagnostic? = some "Bad Gateway" := by
  obtain ⟨told, htold, -, hexcerpt⟩ := diagnostic_classify 502 " \n"
  have hbody : parse? " \n" = none := by decide +kernel
  refine ⟨hbody, ?_⟩
  cases (hexcerpt hbody).2 with
  | beginning hfilled => cases hfilled
  | standIn => exact htold

/-- Three payloads that explain nothing, although the reason phrase of the first one's status would: an empty
error, an error of one blank next to a description, and a description of one blank in the place of an error. -/
theorem classify_unexplained :
    Status.isSuccess 400 = false ∧ standIn 400 = "Bad Request" ∧
    (classify 400 "\x7b\"error\":\"\"\x7d").diagnostic? = some "" ∧
    (classify 503 "\x7b\"error\":\" \",\"error_description\":\"busy\"\x7d").diagnostic? = some " " ∧
    (classify 401 "\x7b\"error\":\"invalid_grant\",\"error_description\":\" \"\x7d").diagnostic?
      = some " " ∧
    Text.isBlankText "" = true ∧ Text.isBlankText " " = true := by
  refine ⟨rfl, rfl, ?_, ?_, ?_, rfl, rfl⟩
  · decide +kernel
  · decide +kernel
  · decide +kernel

end ErrorResponse

end PasswordGrant
