import PasswordGrant.Proofs.Operation

/-!
# The outcome of an operation

All operations treat what comes back in the same way. A network that gives no whole response is a
network failure, whatever the status it began with. A refusing status is classified by the status and
the server's own words; which operation was refused does not count. A successful status gives an
answer, unless the body is not one.

* `ErrorResponse.serverText`, `ErrorResponse.serverCode` : the server's words for a refusal, and the
  code that they amount to;
* `ErrorResponse.Classified` : which failure a refusal means;
* `ErrorResponse.classify_classified` : every refusal is classified in this way;
* `Operation.Handed` : the requests that can be put on the wire;
* `Operation.outcome_table` : what comes of a request in each case.
-/

namespace PasswordGrant

/-! ### The code of a refusal -/

namespace ErrorResponse

/-- The server's words for a refusal: the error of a payload, or else the raw text. -/
def serverText (status : Nat) (body : String) : String :=
  match parse? body with
  | some payload => payload.error
  | none => excerpt status body

/-- The code that the server's words amount to: trimmed, then put in lower case, and then with
underscores for spaces. -/
def serverCode (status : Nat) (body : String) : String :=
  let lower := (Text.trimChars (serverText status body).toList).map Char.toLower
  String.ofList (lower.map fun c => if c = ' ' then '_' else c)

/-- The failure of a refusal blames the user's credentials exactly if the code does not blame the
client, and either the status or the code says so. Otherwise it keeps the status and the words, and
its category tells the server's own trouble from the client's. -/
structure Classified (status : Nat) (body : String) (f : Failure) : Prop where
  credentials_iff : (∃ m, f = .invalidCredentials m) ↔
    (serverCode status body ≠ "invalid_client" ∧ serverCode status body ≠ "unauthorized_client") ∧
      (status = 401 ∨ serverCode status body = "invalid_grant")
  rejected : (¬∃ m, f = .invalidCredentials m) →
    ∃ description, f = .rejected status (serverText status body) description
  category : (¬∃ m, f = .invalidCredentials m) →
    f.category = if 500 ≤ status then .networkFailure else .configurationError

/-- No other character than the space becomes a space in lower case. -/
theorem toLower_eq_space {c : Char} : c.toLower = ' ' ↔ c = ' ' := by
  constructor
  · intro h
    change (if h : c.val ≥ 'A'.val ∧ c.val ≤ 'Z'.val then
      (⟨c.val + ('a'.val - 'A'.val), _⟩ : Char) else c) = ' ' at h
    split at h
    case isTrue hupper =>
      have hval : c.val + 32 = 32 := congrArg Char.val h
      have hle : c.val.toNat ≤ 90 := hupper.2
      have hge : 65 ≤ c.val.toNat := hupper.1
      have hnat : (c.val.toNat + 32) % 4294967296 = 32 := by
        have := congrArg UInt32.toNat hval
        simpa using this
      omega
    case isFalse => exact h
  · rintro rfl
    rfl

theorem error_ofBody (status : Nat) (body : String) :
    (ofBody status body).error = serverText status body := by
  rw [ofBody, serverText]
  cases parse? body with
  | none => rfl
  | some payload => rfl

theorem code_eq (error : String) : code error = String.ofList
    (((Text.trimChars error.toList).map Char.toLower).map fun c => if c = ' ' then '_' else c) := by
  rw [code, List.map_map]
  congr 1
  refine List.map_congr_left fun c _ => ?_
  by_cases hspace : c = ' '
  · rw [if_pos hspace, Function.comp_apply, if_pos (toLower_eq_space.mpr hspace)]
  · rw [if_neg hspace, Function.comp_apply, if_neg (mt toLower_eq_space.mp hspace)]

theorem code_error_ofBody (status : Nat) (body : String) :
    code (ofBody status body).error = serverCode status body := by
  rw [error_ofBody, code_eq]
  rfl

theorem not_blamesClient_iff {code : String} :
    (!blamesClient code) = true ↔ code ≠ "invalid_client" ∧ code ≠ "unauthorized_client" := by
  rw [blamesClient, Bool.not_or, Bool.and_eq_true, Bool.not_eq_true', Bool.not_eq_true',
    beq_eq_false_iff_ne, beq_eq_false_iff_ne]

/-- A refusal blames the user's credentials: its code does not blame the client, and either the status or
the code says so. -/
def BlamesUser (status : Nat) (code : String) : Prop :=
  (code ≠ "invalid_client" ∧ code ≠ "unauthorized_client") ∧ (status = 401 ∨ code = "invalid_grant")

theorem blamesUser_iff {status : Nat} {code : String} :
    (!blamesClient code && (status == 401 || code == "invalid_grant")) = true ↔
      BlamesUser status code := by
  rw [BlamesUser, Bool.and_eq_true, not_blamesClient_iff, Bool.or_eq_true, beq_iff_eq, beq_iff_eq]

/-- A refusal that blames the user's credentials tells the description, or else the error. -/
theorem toFailure_of_blamesUser {status : Nat} {r : ErrorResponse}
    (h : BlamesUser status (code r.error)) :
    r.toFailure status = .invalidCredentials (r.description.getD r.error) := by
  rw [toFailure]
  exact if_pos (blamesUser_iff.mpr h)

theorem toFailure_of_not_blamesUser {status : Nat} {r : ErrorResponse}
    (h : ¬BlamesUser status (code r.error)) :
    r.toFailure status = .rejected status r.error r.description := by
  rw [toFailure]
  exact if_neg (mt blamesUser_iff.mp h)

/-- Every refusal is classified by its status and the code of its words. -/
theorem classify_classified (status : Nat) (body : String) :
    Classified status body (classify status body) := by
  by_cases hblame : BlamesUser status (serverCode status body)
  case pos =>
    have hfailure : classify status body = .invalidCredentials _ :=
      toFailure_of_blamesUser (by rwa [code_error_ofBody])
    have hcredentials : ∃ m, classify status body = .invalidCredentials m := ⟨_, hfailure⟩
    exact ⟨⟨fun _ => hblame, fun _ => hcredentials⟩, fun h => absurd hcredentials h,
      fun h => absurd hcredentials h⟩
  case neg =>
    have hfailure : classify status body = .rejected status _ _ :=
      toFailure_of_not_blamesUser (by rwa [code_error_ofBody])
    rw [error_ofBody] at hfailure
    refine ⟨⟨?_, fun h => absurd h hblame⟩, fun _ => ⟨_, hfailure⟩, fun _ => ?_⟩
    · rintro ⟨m, hm⟩
      rw [hfailure] at hm
      cases hm
    · rw [hfailure, Failure.category]

end ErrorResponse

/-! ### What the network gives back -/

namespace Request

def textOf (bytes : List UInt8) : String := String.ofList (Utf8.decodeLossy bytes)

/-- A response did not arrive as a whole. -/
def Unanswered (e : Exchange) : Prop := ∀ status bytes, e ≠ .answered status bytes

theorem unanswered_or_answered (e : Exchange) :
    Unanswered e ∨ ∃ status bytes, e = .answered status bytes := by
  cases e with
  | answered status bytes => exact .inr ⟨status, bytes, rfl⟩
  | _ => exact .inl fun status bytes h => by cases h

variable {r : Request} {what : String} {e : Exchange}

theorem perform_sendable (h : r.unsendable? = none) : (r.perform what e).1 = r.outcome what e := by
  rw [perform, h]

theorem outcome_unanswered (h : Unanswered e) : ∃ m, r.outcome what e = .error (.network m) := by
  cases e with
  | unreachable => exact ⟨_, rfl⟩
  | closed => exact ⟨_, rfl⟩
  | stalled => exact ⟨_, rfl⟩
  | truncated status => exact ⟨_, rfl⟩
  | stalledBody status => exact ⟨_, rfl⟩
  | answered status bytes => exact absurd rfl (h status bytes)

theorem outcome_refused {status : Nat} {bytes : List UInt8} (h : ¬(200 ≤ status ∧ status ≤ 299)) :
    r.outcome what (.answered status bytes)
      = .error (ErrorResponse.classify status (textOf bytes)) := by
  have hstatus : Status.isSuccess status = false := by
    rw [Status.isSuccess, Bool.and_eq_false_iff, decide_eq_false_iff_not, decide_eq_false_iff_not]
    omega
  simp only [outcome, hstatus]
  rfl

theorem outcome_successful {status : Nat} {bytes : List UInt8} (h : 200 ≤ status ∧ status ≤ 299) :
    r.outcome what (.answered status bytes) = .ok (textOf bytes) := by
  have hstatus : Status.isSuccess status = true := by
    rw [Status.isSuccess, Bool.and_eq_true, decide_eq_true_iff, decide_eq_true_iff]
    exact h
  simp only [outcome, hstatus]
  rfl

end Request

/-! ### The table -/

namespace Operation

theorem readDocument_error {α : Type} {what : String} {parse : String → Except Json.Fault α}
    {body : String} {f : Failure} (h : RealmClient.readDocument what parse body = .error f) :
    ∃ m, f = .malformedResponse m := by
  rw [RealmClient.readDocument] at h
  split at h
  · cases h
  · cases h
    exact ⟨_, rfl⟩

theorem grantOf_error {now : Instant} {body : String} {f : Failure}
    (h : RealmClient.grantOf now body = .error f) : ∃ m, f = .malformedResponse m := by
  rw [RealmClient.grantOf, TokenResponse.parse] at h
  split at h
  · cases h
    exact ⟨_, rfl⟩
  · simp only at h
    split at h
    · cases h
      exact ⟨_, rfl⟩
    · cases h

theorem readDiscovery_error {body : String} {f : Failure}
    (h : RealmClient.readDiscovery body = .error f) : ∃ m, f = .malformedResponse m := by
  rw [RealmClient.readDiscovery] at h
  rcases bind_eq_error.mp h with hdocument | ⟨document, -, htoken⟩
  · exact readDocument_error hdocument
  · split at htoken
    · cases htoken
      exact ⟨_, rfl⟩
    · cases htoken

theorem read_error {op : Operation} {now : Instant} {body : String} {f : Failure}
    (h : op.read now body = .error f) : ∃ m, f = .malformedResponse m := by
  cases op with
  | authenticate user => exact grantOf_error (map_eq_error.mp h)
  | introspect token => exact readDocument_error (map_eq_error.mp h)
  | userClaims token => exact readDocument_error (map_eq_error.mp h)
  | discover => exact readDiscovery_error (map_eq_error.mp h)

/-- An operation has an address and a request to it that can be put on the wire. -/
structure Handed (c : RealmClient) (op : Operation) (url : Url) : Prop where
  address : op.address c = .ok url
  sendable : (op.request c url).unsendable? = none

variable {c : RealmClient} {op : Operation} {url : Url}

theorem result_of_handed (h : Handed c op url) (now : Instant) (e : Exchange) :
    (c.answer ⟨op.call, now, e⟩).result
      = ((op.request c url).outcome op.what e).bind (op.read now) := by
  rw [result_eq, body, h.address]
  simp only [Except.bind]
  rw [Request.perform_sendable h.sendable]

/-- The outcome of a request that was handed over, for every operation: without a whole response, a
failure of the network; with a refusing status, the failure that status and body mean, which is
classified by them alone; with a successful status, an answer or a malformed response, and an answer
in no other case. -/
theorem outcome_table (h : Handed c op url) (now : Instant) (e : Exchange) :
    (Request.Unanswered e →
      ∃ f, (c.answer ⟨op.call, now, e⟩).result = .error f ∧ f.category = .networkFailure) ∧
    (∀ status bytes, e = .answered status bytes →
      ¬(200 ≤ status ∧ status ≤ 299) →
        (c.answer ⟨op.call, now, e⟩).result
          = .error (ErrorResponse.classify status (Request.textOf bytes)) ∧
        ErrorResponse.Classified status (Request.textOf bytes)
          (ErrorResponse.classify status (Request.textOf bytes))) ∧
    (∀ status bytes, e = .answered status bytes →
      200 ≤ status ∧ status ≤ 299 →
        (∃ a, (c.answer ⟨op.call, now, e⟩).result = .ok a) ∨
        ∃ m, (c.answer ⟨op.call, now, e⟩).result = .error (.malformedResponse m)) ∧
    ∀ a, (c.answer ⟨op.call, now, e⟩).result = .ok a →
      ∃ status bytes, e = .answered status bytes ∧
        (200 ≤ status ∧ status ≤ 299) ∧ op.read now (Request.textOf bytes) = .ok a := by
  have hunanswered : Request.Unanswered e → ∃ m,
      (op.request c url).outcome op.what e = .error (.network m) :=
    Request.outcome_unanswered
  rw [result_of_handed h]
  refine ⟨fun hlost => ?_, fun status bytes hanswered hstatus => ?_,
    fun status bytes hanswered hstatus => ?_, fun a ha => ?_⟩
  · -- no whole response
    obtain ⟨m, hm⟩ := hunanswered hlost
    exact ⟨.network m, by rw [hm]; rfl, rfl⟩
  · -- a refusing status
    rw [hanswered, Request.outcome_refused hstatus]
    exact ⟨rfl, ErrorResponse.classify_classified _ _⟩
  · -- a successful status
    rw [hanswered, Request.outcome_successful hstatus]
    simp only [Except.bind]
    cases hread : op.read now (Request.textOf bytes) with
    | ok a => exact .inl ⟨a, rfl⟩
    | error f =>
      obtain ⟨m, rfl⟩ := read_error hread
      exact .inr ⟨m, rfl⟩
  · -- an answer: neither of the first two cases gives one
    rcases Request.unanswered_or_answered e with hlost | ⟨status, bytes, hanswered⟩
    · obtain ⟨m, hm⟩ := hunanswered hlost
      rw [hm] at ha
      cases ha
    · rw [hanswered] at ha
      by_cases hstatus : 200 ≤ status ∧ status ≤ 299
      · rw [Request.outcome_successful hstatus] at ha
        exact ⟨status, bytes, hanswered, hstatus, ha⟩
      · rw [Request.outcome_refused hstatus] at ha
        cases ha

/-- A status that means a wrong password, without any words. -/
theorem authenticate_unauthorized :
    ((RealmClient.ofPublic "https://h" "r" "c").answer
        ⟨.authenticate ⟨"u", "p", ""⟩, Instant.epoch, .answered 401 []⟩).result
      = .error (ErrorResponse.classify 401 (Request.textOf [])) :=
  have hhanded : Handed (RealmClient.ofPublic "https://h" "r" "c") (authenticate ⟨"u", "p", ""⟩)
      ⟨true, "", none, .domain "h", none,
        ⟨["auth", "realms", "r", "protocol", "openid-connect"], "token"⟩, none, none⟩ :=
    ⟨rfl, by decide +kernel⟩
  ((outcome_table hhanded Instant.epoch (.answered 401 [])).2.1 401 [] rfl (by decide)).1

end Operation

end PasswordGrant
