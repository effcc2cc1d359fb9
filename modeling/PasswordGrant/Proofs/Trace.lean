import PasswordGrant.Proofs.Expiry
import PasswordGrant.Proofs.Operation
import PasswordGrant.Proofs.TokenGrant

/-!
# The trace of an attempt

Observers can rely on the shape of what they are told. An attempt begins with one event, says that it
sends a request if and only if user and client can be used, and ends with one event that tells its
result. A request goes out only after it was announced, and there is never a second one.

* `Attempt.Tells` : the event that tells a result, with the expiry that the token has;
* `Attempt.Traced` : the reports that an attempt may come to;
* `secondsUntilExpiry_nonneg` : a token does not expire before it was obtained, so that its expiry
  can be told as a natural number;
* `attempts_traced` : every attempt is traced, and so is every session of attempts.
-/

namespace PasswordGrant

/-! ### When a token expires -/

namespace TokenResponse

/-- A token does not expire before it was obtained. -/
theorem secondsUntilExpiry_nonneg {r : TokenResponse} {now : Instant} {s : Int}
    (h : (r.toGrant now).secondsUntilExpiry now = some s) : 0 ≤ s := by
  rw [Grant.secondsUntilExpiry, expiresAt_toGrant] at h
  obtain ⟨expiry, hexpiry, rfl⟩ := Option.map_eq_some_iff.mp h
  obtain ⟨lifetime, hlifetime, hlater⟩ := Option.bind_eq_some_iff.mp hexpiry
  have hpositive : 0 < lifetime := of_decide_eq_true (Option.filter_eq_some_iff.mp hlifetime).2
  -- a leap second takes one second away, and there is at least one
  have hlost := now.secondLost_le_one expiry
  rw [Instant.secondsUntil_of_later (Instant.addSeconds?_eq_some_iff.mp hlater) (by omega)]
  omega

end TokenResponse

/-! ### What an observer is told -/

/-- An attempt to obtain a token, plainly or by signing in. -/
structure Attempt where
  user : Credentials
  now : Instant
  exchange : Exchange
  plain : Bool

namespace Attempt

/-- The step of a session that an attempt is. -/
def step (a : Attempt) : Step :=
  ⟨if a.plain then .authenticate a.user else .signIn a.user, a.now, a.exchange⟩

def report (c : RealmClient) (a : Attempt) : Report Grant := c.authenticate a.user a.now a.exchange

/-- User and client can be used. -/
def Usable (c : RealmClient) (user : Credentials) : Prop :=
  user.validate = .ok () ∧ c.validate = .ok ()

/-- An event tells a result: of a token its session, its preview and the seconds until it expires,
counted from when it was obtained; of a failure that very failure. -/
inductive Tells : Event → Except Failure Grant → Prop
  | token {g : Grant} {expiry : Option Nat}
      (hexpiry : g.secondsUntilExpiry g.obtainedAt = expiry.map Int.ofNat) :
      Tells (.tokenObtained g.sessionId (Event.preview g.accessToken) expiry) (.ok g)
  | failure {f : Failure} : Tells (.failed f) (.error f)

/-- The reports that an attempt may come to: it is refused before anything is sent, or it announces
its request, which may still not reach a server, and tells its result. -/
inductive Traced (c : RealmClient) (user : Credentials) : Report Grant → Prop
  | refused {f : Failure} (hrefused : ¬Usable c user) :
      Traced c user ⟨.error f, [], [.started c.realm user.username, .failed f]⟩
  | announced {url : Url} {result : Except Failure Grant} {requests : List Request} {last : Event}
      (husable : Usable c user) (hurl : c.endpointUrl .token = .ok url) (hlast : Tells last result)
      (hrequests : requests = [] ∨ requests = [c.tokenRequest user url]) :
      Traced c user
        ⟨result, requests, [.started c.realm user.username, .requestSent url.text, last]⟩

/-! ### One attempt -/

theorem tells_finalEvent {now : Instant} {body : Except Failure String} :
    Tells (RealmClient.finalEvent (body.bind (RealmClient.grantOf now)))
      (body.bind (RealmClient.grantOf now)) := by
  cases hresult : body.bind (RealmClient.grantOf now) with
  | error f => exact .failure
  | ok g =>
    obtain ⟨r, rfl, -⟩ := RealmClient.exists_response hresult
    refine .token ?_
    rw [TokenResponse.obtainedAt_toGrant]
    cases hseconds : (r.toGrant now).secondsUntilExpiry now with
    | none => rfl
    | some s =>
      have hs : 0 ≤ s := TokenResponse.secondsUntilExpiry_nonneg hseconds
      rw [Option.bind_some, if_pos hs, Option.map_some, Int.ofNat_eq_natCast, Int.toNat_of_nonneg hs]

/-- An attempt is refused exactly if user or client cannot be used; any other announces its request
to the token endpoint. -/
theorem authenticate_traced (c : RealmClient) (user : Credentials) (now : Instant) (e : Exchange) :
    Traced c user (c.authenticate user now e) := by
  rw [RealmClient.authenticate]
  cases haddress : c.authenticateUrl user with
  | error f =>
    -- a usable user and client would have had an address
    refine .refused ?_
    rintro ⟨huser, hclient⟩
    obtain ⟨url, hurl⟩ := RealmClient.endpointUrl_ok hclient .token
    rw [RealmClient.authenticateUrl_eq_ok_iff.mpr ⟨huser, hclient, hurl⟩] at haddress
    cases haddress
  | ok url =>
    obtain ⟨huser, hclient, hurl⟩ := RealmClient.authenticateUrl_eq_ok_iff.mp haddress
    exact .announced ⟨huser, hclient⟩ hurl tells_finalEvent (Request.perform_requests ..)

/-! ### Sessions of attempts -/

theorem events_step (c : RealmClient) (a : Attempt) :
    (c.answer a.step).events = (a.report c).events := by
  obtain ⟨user, now, e, plain⟩ := a
  cases plain <;> rfl

/-- Every attempt is traced, and an observer of attempts has seen their traces one after the other. -/
theorem attempts_traced (c : RealmClient) :
    (∀ a : Attempt, Traced c a.user (a.report c)) ∧
    ∀ attempts : List Attempt,
      c.observed [] (attempts.map step) = attempts.flatMap fun a => (a.report c).events := by
  refine ⟨fun a => authenticate_traced c a.user a.now a.exchange, fun attempts => ?_⟩
  rw [RealmClient.observed_eq, List.nil_append, List.flatMap_map]
  simp only [events_step]

end Attempt

end PasswordGrant
