import PasswordGrant.SignIn

/-!
# Sessions

A session is a list of calls on one client, each at its own time and with its own luck on the network.
No call leaves anything behind that a later one could see.

* `Call`, `Step` : what is asked for, and when;
* `RealmClient.answer` : what a step comes to;
* `RealmClient.session` : what the steps of a session come to;
* `RealmClient.observed` : what an observer that keeps every event holds after a session;
* `RealmClient.observed_eq` : the events of all steps, in order.
-/

namespace PasswordGrant

/-- What a client can be asked for. -/
inductive Call where
  /-- A token for a user. -/
  | authenticate (user : Credentials)
  /-- Signing in, which never fails. -/
  | signIn (user : Credentials)
  /-- What a token is worth. -/
  | introspect (token : String)
  /-- The user of a token. -/
  | userClaims (token : String)
  /-- What the realm says about itself. -/
  | discover
  deriving DecidableEq, Repr

/-- What a call may answer. -/
inductive Answer where
  | grant (g : Grant)
  | introspection (i : Introspection)
  | claims (c : UserClaims)
  | discovery (d : Discovery)

/-- A call at its time, and what the network does with its request. -/
structure Step where
  call : Call
  now : Instant
  exchange : Exchange

namespace Report

def map {α β : Type} (f : α → β) (r : Report α) : Report β :=
  ⟨r.result.map f, r.requests, r.events⟩

def always {α β : Type} (answer : β) (r : Report α) : Report β :=
  ⟨.ok answer, r.requests, r.events⟩

end Report

namespace RealmClient

/-- What a step comes to. -/
def answer (c : RealmClient) (s : Step) : Report Answer :=
  match s.call with
  | .authenticate user => (c.authenticate user s.now s.exchange).map .grant
  | .signIn user =>
    let (grant, report) := c.signIn user s.now s.exchange
    report.always (.grant grant)
  | .introspect token => (c.introspect token s.exchange).map .introspection
  | .userClaims token => (c.userClaims token s.exchange).map .claims
  | .discover => (c.discover s.exchange).map .discovery

/-- What the steps of a session come to, in order. -/
def session (c : RealmClient) (steps : List Step) : List (Report Answer) := steps.map c.answer

/-- What an observer that keeps every event holds after the steps of a session: it is told one event
after the other. -/
def observed (c : RealmClient) (seen : List Event) : List Step → List Event
  | [] => seen
  | s :: steps => c.observed ((c.answer s).events.foldl (fun seen e => seen ++ [e]) seen) steps

theorem observed_cons (c : RealmClient) (seen : List Event) (s : Step) (steps : List Step) :
    c.observed seen (s :: steps) = c.observed (seen ++ (c.answer s).events) steps := by
  rw [RealmClient.observed, List.foldl_append_eq_append, ← List.flatMap_def, List.flatMap_singleton']

/-- After a session the observer has seen the events of all its steps, in order. -/
theorem observed_eq (c : RealmClient) (seen : List Event) (steps : List Step) :
    c.observed seen steps = seen ++ steps.flatMap fun s => (c.answer s).events := by
  induction steps generalizing seen with
  | nil => rw [RealmClient.observed, List.flatMap_nil, List.append_nil]
  | cons s steps ih => rw [observed_cons, ih, List.flatMap_cons, List.append_assoc]

end RealmClient

end PasswordGrant
