import PasswordGrant.SignIn

/-!
# Signing in with any authenticator

Signing in needs somebody who answers attempts. It asks once for each attempt and makes a grant of
whatever comes back, by a clock of its own. An authenticator may remember what it was asked before; a
client of a realm is one, and what it leaves behind is what reached the server and the observers.

* `Authenticator` : what answers attempts;
* `Authenticator.signIn`, `Authenticator.signIns` : signing in once, and several times in a row;
* `Authenticator.attempts` : the answers themselves;
* `RealmClient.authenticator` : a client of a realm.
-/

namespace PasswordGrant

/-- What answers attempts. `σ` is what it remembers from one attempt to the next. -/
structure Authenticator (σ : Type) where
  authenticate : Credentials → σ → Except Failure Grant × σ

namespace Authenticator

variable {σ : Type}

/-- Signs in: asks once, and makes a grant of the answer. The clock dates a failure. -/
def signIn (a : Authenticator σ) (clock : Instant) (user : Credentials) (s : σ) : Grant × σ :=
  let (answer, s) := a.authenticate user s
  (Grant.ofAttempt clock answer, s)

/-- Signs in users one after the other, each when the clock shows the instant beside it. -/
def signIns (a : Authenticator σ) : List (Credentials × Instant) → σ → List Grant × σ
  | [], s => ([], s)
  | (user, clock) :: calls, s =>
    let (grant, s) := a.signIn clock user s
    let (grants, s) := a.signIns calls s
    (grant :: grants, s)

/-- The answers to the attempts of users one after the other, each with its instant. -/
def attempts (a : Authenticator σ) :
    List (Credentials × Instant) → σ → List (Instant × Except Failure Grant) × σ
  | [], s => ([], s)
  | (user, clock) :: calls, s =>
    let (answer, s) := a.authenticate user s
    let (answers, s) := a.attempts calls s
    ((clock, answer) :: answers, s)

end Authenticator

/-- What the attempts of a client have left behind: how many there were, what reached the server, and
what observers were told. -/
structure Trail where
  attempts : Nat
  requests : List Request
  events : List Event

/-- A client of a realm. For each attempt the network shows what it does with the request, and the
clock of the client when the response arrives. -/
def RealmClient.authenticator (c : RealmClient) (network : Nat → Instant × Exchange) :
    Authenticator Trail where
  authenticate user trail :=
    let (now, e) := network trail.attempts
    let report := c.authenticate user now e
    (report.result,
      ⟨trail.attempts + 1, trail.requests ++ report.requests, trail.events ++ report.events⟩)

end PasswordGrant
