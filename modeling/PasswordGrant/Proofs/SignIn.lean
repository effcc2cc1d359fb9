import Mathlib.Data.List.Forall2
import PasswordGrant.Authenticator
import PasswordGrant.Proofs.Locality
import PasswordGrant.Proofs.TokenGrant

/-!
# What signing in comes to

Signing in never fails, so whoever asks for it has to learn everything from the grant. A grant should say
one thing: that there is a token, or that there is none and why. Signing in makes sure of this for every
answer but one: a token that comes along with a failure is handed on as it is. A client of a realm gives
no such answer, and signing in with it shows exactly what the plain attempt comes to.

* `Grant.Consistent` : a grant says one thing; `Grant.Contradictory` : an answer that says two;
* `Grant.consistent_ofAttempt_iff` : the grants of all other answers are consistent;
* `Authenticator.signIns_eq` : signing in asks what plain attempts ask, and keeps the order of the answers;
* `Authenticator.signIns_consistent_iff` : what several users get from any authenticator;
* `RealmClient.signIn_mirrors` : signing in with a client of a realm.
-/

namespace PasswordGrant

/-! ### Grants that say one thing -/

namespace Grant

variable {g : Grant} {clock : Instant}

/-- A grant that holds nothing that belongs to a token. -/
structure Bare (g : Grant) : Prop where
  accessToken : g.accessToken = ""
  sessionId : g.sessionId = ""
  refreshToken : g.refreshToken = none
  expiresAt : g.expiresAt = none
  refreshExpiresAt : g.refreshExpiresAt = none
  scopes : g.scopes = []

/-- A grant says one thing: it has a token and is no failure, or it is a failure and holds nothing that
belongs to a token. -/
inductive Consistent (g : Grant) : Prop
  | token (htoken : g.accessToken ≠ "") (hfailure : g.failure = none)
  | failure (hbare : g.Bare) (hfailure : g.failure ≠ none)

/-- An answer says two things: here is a token, and the attempt failed. -/
def Contradictory (answer : Except Failure Grant) : Prop :=
  ∃ g, answer = .ok g ∧ g.accessToken ≠ "" ∧ g.failure ≠ none

theorem bare_failed (f : Failure) (clock : Instant) : (failed f clock).Bare :=
  ⟨rfl, rfl, rfl, rfl, rfl, rfl⟩

theorem isSuccess_eq_true_iff : g.isSuccess = true ↔ g.accessToken ≠ "" := by
  simp [isSuccess]

theorem ofAttempt_of_token (h : g.accessToken ≠ "") : ofAttempt clock (.ok g) = g := by
  rw [ofAttempt, if_pos (isSuccess_eq_true_iff.mpr h)]

theorem ofAttempt_of_no_token (clock : Instant) (h : g.accessToken = "") :
    ∃ f, ofAttempt clock (.ok g) = failed f clock := by
  have hsuccess : ¬g.isSuccess = true := fun hs => isSuccess_eq_true_iff.mp hs h
  exact ⟨_, by rw [ofAttempt, if_neg hsuccess]⟩

/-- What becomes of an answer says one thing, unless the answer says two. -/
theorem consistent_ofAttempt_iff (clock : Instant) (answer : Except Failure Grant) :
    (ofAttempt clock answer).Consistent ↔ ¬Contradictory answer := by
  have hfailed : ∀ f, (failed f clock).Consistent :=
    fun f => .failure (bare_failed f clock) (Option.some_ne_none f)
  cases answer with
  | error f =>
    apply iff_of_true (hfailed f)
    rintro ⟨g, hg, -⟩
    cases hg
  | ok g =>
    by_cases htoken : g.accessToken = ""
    · obtain ⟨f, hf⟩ := ofAttempt_of_no_token clock htoken
      rw [hf]
      apply iff_of_true (hfailed f)
      rintro ⟨g', hg, htoken', -⟩
      cases hg
      exact htoken' htoken
    · rw [ofAttempt_of_token htoken]
      constructor
      · intro hconsistent
        rintro ⟨g', hg, -, hfailure⟩
        cases hg
        cases hconsistent with
        | token _ hnone => exact hfailure hnone
        | failure hbare _ => exact htoken hbare.accessToken
      · intro hclear
        refine .token htoken (Decidable.byContradiction fun hfailure => ?_)
        exact hclear ⟨g, rfl, htoken, hfailure⟩

theorem ofAttempt_of_contradictory {answer : Except Failure Grant} (h : Contradictory answer) :
    answer = .ok (ofAttempt clock answer) := by
  obtain ⟨g, rfl, htoken, -⟩ := h
  rw [ofAttempt_of_token htoken]

theorem outcomeLine_eq_failed_iff : g.outcomeLine = "Authentication failed" ↔ g.accessToken = "" := by
  rw [outcomeLine]
  split
  case isTrue hsuccess =>
    apply iff_of_false
    · intro hline
      have hfirst := congrArg (fun line => line.toList[0]?) hline
      simp at hfirst
    · exact isSuccess_eq_true_iff.mp hsuccess
  case isFalse hsuccess =>
    apply iff_of_true rfl
    exact Decidable.byContradiction fun htoken => hsuccess (isSuccess_eq_true_iff.mpr htoken)

end Grant

/-! ### Any authenticator -/

namespace Authenticator

variable {σ : Type}

/-- Signing in leaves the authenticator as the plain attempts do, and makes a grant of each answer. -/
theorem signIns_eq (a : Authenticator σ) (calls : List (Credentials × Instant)) (s : σ) :
    a.signIns calls s
      = ((a.attempts calls s).1.map fun x => Grant.ofAttempt x.1 x.2, (a.attempts calls s).2) := by
  induction calls generalizing s with
  | nil => rfl
  | cons call calls ih =>
    obtain ⟨user, clock⟩ := call
    simp only [signIns, signIn, attempts, ih, List.map_cons]

theorem length_attempts (a : Authenticator σ) (calls : List (Credentials × Instant)) (s : σ) :
    (a.attempts calls s).1.length = calls.length := by
  induction calls generalizing s with
  | nil => rfl
  | cons call calls ih => simp only [attempts, List.length_cons, ih]

theorem forall₂_signIns (a : Authenticator σ) {P : Instant × Except Failure Grant → Grant → Prop}
    (calls : List (Credentials × Instant)) (s : σ)
    (h : ∀ x ∈ (a.attempts calls s).1, P x (Grant.ofAttempt x.1 x.2)) :
    List.Forall₂ P (a.attempts calls s).1 (a.signIns calls s).1 := by
  rw [signIns_eq, List.forall₂_map_right_iff, List.forall₂_same]
  exact h

/-- Every user gets a grant, whatever the authenticator answers. A grant says one thing unless the
answer said two: a token together with a failure, which is handed on as it is. -/
theorem signIns_consistent_iff (a : Authenticator σ) (calls : List (Credentials × Instant)) (s : σ) :
    (a.signIns calls s).1.length = calls.length ∧
    List.Forall₂ (fun x g => (g.Consistent ↔ ¬Grant.Contradictory x.2) ∧
        (Grant.Contradictory x.2 → x.2 = .ok g))
      (a.attempts calls s).1 (a.signIns calls s).1 := by
  constructor
  · rw [signIns_eq, List.length_map, length_attempts]
  · apply forall₂_signIns
    intro x _
    exact ⟨Grant.consistent_ofAttempt_iff x.1 x.2, Grant.ofAttempt_of_contradictory⟩

/-- An authenticator that answers with a token and a failure at once: both are in the grant. -/
theorem signIns_inconsistent :
    let both : Grant := { Grant.new "tok" "s" Instant.epoch with failure := some (.network "down") }
    let a : Authenticator Unit := ⟨fun _ s => (.ok both, s)⟩
    (a.signIns [(⟨"u", "p", ""⟩, Instant.epoch)] ()).1 = [both] ∧ ¬both.Consistent := by
  intro both a
  refine ⟨rfl, ?_⟩
  intro hconsistent
  cases hconsistent with
  | token _ hnone => cases hnone
  | failure hbare _ => exact absurd hbare.accessToken (by decide)

end Authenticator

/-! ### A client of a realm -/

/-- No refusal is a malformed response. -/
theorem ErrorResponse.classify_ne_malformed (status : Nat) (body message : String) :
    classify status body ≠ .malformedResponse message := by
  have hclassified := classify_classified status body
  intro hmalformed
  by_cases hcredentials : ∃ m, classify status body = .invalidCredentials m
  · obtain ⟨m, hm⟩ := hcredentials
    rw [hm] at hmalformed
    cases hmalformed
  · obtain ⟨description, hrejected⟩ := hclassified.rejected hcredentials
    rw [hrejected] at hmalformed
    cases hmalformed

/-- Nor is anything else that goes wrong on the wire. -/
theorem Request.perform_ne_malformed {r : Request} {what : String} {e : Exchange} (message : String) :
    (r.perform what e).1 ≠ .error (.malformedResponse message) := by
  intro h
  rw [perform] at h
  split at h
  case h_1 failure hunsendable =>
    obtain ⟨m, rfl⟩ := unsendable?_eq_some hunsendable
    cases h
  case h_2 =>
    rcases unanswered_or_answered e with hlost | ⟨status, bytes, hanswered⟩
    · obtain ⟨m, hm⟩ : ∃ m, r.outcome what e = .error (.network m) := outcome_unanswered hlost
      rw [hm] at h
      cases h
    · rw [hanswered] at h
      by_cases hstatus : 200 ≤ status ∧ status ≤ 299
      · rw [outcome_successful hstatus] at h
        cases h
      · rw [outcome_refused hstatus] at h
        exact ErrorResponse.classify_ne_malformed _ _ message (Except.error.inj h)

theorem invalid_ne_emptyToken (reason : String) :
    "invalid token response: " ++ reason ≠ "empty access token" := by
  intro h
  have hfirst := congrArg (fun text => text.toList.head?) h
  simp at hfirst

theorem TokenResponse.parse_ne_emptyToken (body : String) :
    parse body ≠ .error (.malformedResponse "empty access token") := by
  intro h
  rw [parse] at h
  split at h
  · exact invalid_ne_emptyToken _ (Failure.malformedResponse.inj (Except.error.inj h))
  · dsimp only at h
    split at h
    · have hwords := Failure.malformedResponse.inj (Except.error.inj h)
      exact absurd hwords (by decide)
    · cases h

/-- A grant mirrors an answer: a token is shown unchanged, and it is no failure; a failure is shown with
nothing else but the time on the clock. -/
inductive Grant.Mirrors (clock : Instant) : Except Failure Grant → Grant → Prop
  | token {g : Grant} (htoken : g.accessToken ≠ "") (hfailure : g.failure = none) :
      Mirrors clock (.ok g) g
  | failure {f : Failure} {g : Grant} (hbare : g.Bare) (hfailure : g.failure = some f)
      (hobtained : g.obtainedAt = clock) : Mirrors clock (.error f) g

/-- A grant is a faithful view of an answer: it mirrors it, its failure is not one that signing in made
up, and the line that it is told in is that of a failure exactly if the answer is one. -/
structure Grant.Faithful (clock : Instant) (answer : Except Failure Grant) (g : Grant) : Prop where
  mirrors : Mirrors clock answer g
  failure : g.failure ≠ some (.malformedResponse "empty access token")
  line : g.outcomeLine = "Authentication failed" ↔ ∃ f, answer = .error f

namespace RealmClient

theorem authenticate_ne_emptyToken (c : RealmClient) (user : Credentials) (now : Instant)
    (e : Exchange) :
    (c.authenticate user now e).result ≠ .error (.malformedResponse "empty access token") := by
  intro h
  rw [Operation.authenticate_result] at h
  rcases bind_eq_error.mp h with hbody | ⟨text, -, hread⟩
  · rcases bind_eq_error.mp hbody with haddress | ⟨url, -, hperform⟩
    · -- what the client checks itself is found before anything is sent
      have hnone : (Operation.authenticate user).address c
          = .error (.malformedResponse "empty access token") := haddress
      have hlocal := Operation.address_error hnone
      cases hlocal
    · exact Request.perform_ne_malformed _ hperform
  · exact TokenResponse.parse_ne_emptyToken text (map_eq_error.mp hread)

/-- The grant of what a client answers is a faithful view of it, by whichever clock. -/
theorem faithful_ofAttempt (c : RealmClient) (user : Credentials) (now clock : Instant)
    (e : Exchange) :
    Grant.Faithful clock (c.authenticate user now e).result
      (Grant.ofAttempt clock (c.authenticate user now e).result) := by
  cases hresult : (c.authenticate user now e).result with
  | error f =>
    have hf : f ≠ .malformedResponse "empty access token" := by
      rintro rfl
      exact c.authenticate_ne_emptyToken user now e hresult
    show Grant.Faithful clock (.error f) (Grant.failed f clock)
    refine ⟨.failure (Grant.bare_failed f clock) rfl rfl, ?_, ?_⟩
    · intro hsame
      exact hf (Option.some.inj hsame)
    · exact iff_of_true rfl ⟨f, rfl⟩
  | ok g =>
    rw [Operation.authenticate_result] at hresult
    obtain ⟨r, rfl, hr⟩ := exists_response hresult
    have htoken : (r.toGrant now).accessToken ≠ "" := by
      rw [TokenResponse.accessToken_toGrant]
      exact hr
    have hfailure : (r.toGrant now).failure = none := TokenResponse.failure_toGrant r now
    rw [Grant.ofAttempt_of_token htoken]
    refine ⟨.token htoken hfailure, ?_, ?_⟩
    · rw [hfailure]
      exact (Option.some_ne_none _).symm
    · rw [Grant.outcomeLine_eq_failed_iff]
      apply iff_of_false htoken
      rintro ⟨f, hf⟩
      cases hf

theorem exists_of_mem_attempts (c : RealmClient) (network : Nat → Instant × Exchange)
    (calls : List (Credentials × Instant)) (trail : Trail) :
    ∀ x ∈ ((c.authenticator network).attempts calls trail).1,
      ∃ user now e, x.2 = (c.authenticate user now e).result := by
  induction calls generalizing trail with
  | nil =>
    intro x hx
    cases hx
  | cons call calls ih =>
    intro x hx
    rcases List.mem_cons.mp hx with rfl | hlater
    · exact ⟨_, _, _, rfl⟩
    · exact ih _ x hlater

/-- Signing in with a client of a realm sends and tells what the plain attempt sends and tells, and its
grant is a faithful view of the answer. The same holds of users who sign in one after the other, by a
clock apart from that of the client. -/
theorem signIn_mirrors (c : RealmClient) :
    (∀ user now e, (c.signIn user now e).2 = c.authenticate user now e ∧
      Grant.Faithful now (c.authenticate user now e).result (c.signIn user now e).1) ∧
    ∀ (network : Nat → Instant × Exchange) (calls : List (Credentials × Instant)) (trail : Trail),
      ((c.authenticator network).signIns calls trail).2
          = ((c.authenticator network).attempts calls trail).2 ∧
        List.Forall₂ (fun x g => Grant.Faithful x.1 x.2 g)
          ((c.authenticator network).attempts calls trail).1
          ((c.authenticator network).signIns calls trail).1 := by
  constructor
  · intro user now e
    exact ⟨rfl, faithful_ofAttempt c user now now e⟩
  · intro network calls trail
    constructor
    · rw [Authenticator.signIns_eq]
    · apply Authenticator.forall₂_signIns
      intro x hx
      obtain ⟨user, now, e, hanswer⟩ := exists_of_mem_attempts c network calls trail x hx
      rw [hanswer]
      exact faithful_ofAttempt c user now x.1 e

end RealmClient

end PasswordGrant
