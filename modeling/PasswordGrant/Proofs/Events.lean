import PasswordGrant.Proofs.Operation

/-!
# What observers are told of an operation

Of an operation observers are told the same in the same places: before anything is checked who asks for a
token, once there is an address where the request goes, and at the end what an attempt to obtain a token
came to. They are told nothing of the realm being asked about itself.

* `Operation.opening`, `Operation.announced`, `Operation.closing` : the events in their places;
* `Operation.events_eq` : the events of an operation.
-/

namespace PasswordGrant.Operation

/-- What observers are told before anything is checked. -/
def opening (c : RealmClient) : Operation → List Event
  | authenticate user => [.started c.realm user.username]
  | _ => []

/-- What observers are told of an address. -/
def announced : Operation → Url → List Event
  | discover, _ => []
  | _, url => [.requestSent url.text]

/-- What observers are told of a result. -/
def closing : Operation → Except Failure Answer → List Event
  | authenticate _, .ok (.grant g) => [RealmClient.finalEvent (.ok g)]
  | authenticate _, .error f => [.failed f]
  | _, _ => []

variable {c : RealmClient}

theorem closing_authenticate (user : Credentials) (result : Except Failure Grant) :
    closing (authenticate user) (result.map .grant) = [RealmClient.finalEvent result] := by
  cases result with
  | error f => rfl
  | ok g => rfl

/-- The events of an operation: the address is announced if there is one. -/
theorem events_eq (c : RealmClient) (op : Operation) (now : Instant) (e : Exchange) :
    (c.answer ⟨op.call, now, e⟩).events
      = op.opening c ++ ((op.address c).toOption.map op.announced).getD []
          ++ op.closing (c.answer ⟨op.call, now, e⟩).result := by
  cases op with
  | authenticate user =>
    simp only [call, RealmClient.answer, Report.map, address]
    rw [closing_authenticate, RealmClient.authenticate]
    cases c.authenticateUrl user with
    | error f => rfl
    | ok url => rfl
  | introspect token =>
    simp only [call, RealmClient.answer, Report.map, address, RealmClient.introspect]
    cases c.tokenUrl token .introspection with
    | error f => rfl
    | ok url => rfl
  | userClaims token =>
    simp only [call, RealmClient.answer, Report.map, address, RealmClient.userClaims]
    cases c.tokenUrl token .userinfo with
    | error f => rfl
    | ok url => rfl
  | discover =>
    simp only [call, RealmClient.answer, Report.map, address, RealmClient.discover]
    cases (do c.validate; c.endpointUrl .discovery : Except Failure Url) with
    | error f => rfl
    | ok url => rfl

end PasswordGrant.Operation
