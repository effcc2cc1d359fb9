import PasswordGrant.Proofs.Except
import PasswordGrant.Session

/-!
# The operations as one

Four things that a client can be asked for may fail: a token, what a token is worth, the user of a
token, and the realm itself. They differ in their address, their request, the word for the response
and the reader of its body; everything else is the same for all of them.

* `Operation` : the four, with `Operation.address`, `Operation.request`, `Operation.read`;
* `RealmClient.validate_ok`, `RealmClient.endpointUrl_ok` : a client that can be used has all its
  addresses;
* `RealmClient.authenticateUrl_eq_ok_iff`, `RealmClient.tokenUrl_eq_ok_iff` : what is checked before
  anything is sent;
* `Operation.address_of_valid` : an address of a client that can be used depends on the input alone;
* `Operation.result_eq`, `Operation.requests_eq` : what an operation comes to;
* `Operation.sent_eq` : at most one request.
-/

namespace PasswordGrant

/-! ### A client that can be used has addresses -/

namespace RealmClient

variable {c : RealmClient} {url : Url}

/-- The first check of a client is that its base address is one. -/
theorem validate_ok (h : c.validate = .ok ()) : ∃ base, c.parsedBaseUrl = .ok base := by
  cases hbase : c.parsedBaseUrl with
  | error failure =>
    rw [validate, hbase] at h
    cases h
  | ok base => exact ⟨base, rfl⟩

/-- Nothing else can go wrong with the address of an endpoint. -/
theorem endpointUrl_ok (h : c.validate = .ok ()) (e : Endpoint) :
    ∃ url, c.endpointUrl e = .ok url := by
  obtain ⟨base, hbase⟩ := validate_ok h
  exact ⟨_, by rw [endpointUrl_eq_map, hbase]; rfl⟩

/-- A token is asked for once user and client were checked. -/
theorem authenticateUrl_eq_ok_iff {user : Credentials} :
    c.authenticateUrl user = .ok url
      ↔ user.validate = .ok () ∧ c.validate = .ok () ∧ c.endpointUrl .token = .ok url := by
  rw [authenticateUrl, seq_eq_ok_iff, seq_eq_ok_iff]

/-- A token is asked about once token and client were checked. -/
theorem tokenUrl_eq_ok_iff {token : String} {e : Endpoint} : c.tokenUrl token e = .ok url
    ↔ Text.isBlankText token = false ∧ c.validate = .ok () ∧ c.endpointUrl e = .ok url := by
  have hrequire : requireToken token = .ok () ↔ Text.isBlankText token = false := by
    rw [requireToken]
    cases Text.isBlankText token with
    | true => simp
    | false => simp
  rw [tokenUrl, seq_eq_ok_iff, seq_eq_ok_iff, hrequire]

theorem tokenUrl_of_blank {token : String} (h : Text.isBlankText token = true) (e : Endpoint) :
    c.tokenUrl token e = .error (.invalidRequest "access token must not be empty") := by
  rw [tokenUrl, requireToken, if_pos h]
  rfl

end RealmClient

theorem Request.perform_requests (what : String) (r : Request) (e : Exchange) :
    (r.perform what e).2 = [] ∨ (r.perform what e).2 = [r] := by
  rw [Request.perform]
  split
  · exact .inl rfl
  split
  · exact .inr rfl
  · exact .inl rfl

/-! ### The four operations -/

/-- What a client can be asked for that may fail. -/
inductive Operation where
  | authenticate (user : Credentials)
  | introspect (token : String)
  | userClaims (token : String)
  | discover
  deriving DecidableEq, Repr

namespace Operation

def call : Operation → Call
  | authenticate user => .authenticate user
  | introspect token => .introspect token
  | userClaims token => .userClaims token
  | discover => .discover

def what : Operation → String
  | authenticate _ => "token response"
  | introspect _ => "introspection response"
  | userClaims _ => "userinfo response"
  | discover => "discovery document"

/-- The address that it goes to, if it can be sent. -/
def address (c : RealmClient) : Operation → Except Failure Url
  | authenticate user => c.authenticateUrl user
  | introspect token => c.tokenUrl token .introspection
  | userClaims token => c.tokenUrl token .userinfo
  | discover => do c.validate; c.endpointUrl .discovery

/-- What is checked of the input before the client is. -/
def checkInput : Operation → Except Failure Unit
  | authenticate user => user.validate
  | introspect token => RealmClient.requireToken token
  | userClaims token => RealmClient.requireToken token
  | discover => .ok ()

def endpoint : Operation → Endpoint
  | authenticate _ => .token
  | introspect _ => .introspection
  | userClaims _ => .userinfo
  | discover => .discovery

/-- Of a client that can be used, the input alone decides whether there is an address. -/
theorem address_of_valid {c : RealmClient} (h : c.validate = .ok ()) (op : Operation) :
    op.address c = op.checkInput.bind fun _ => c.endpointUrl op.endpoint := by
  cases op with
  | authenticate user =>
    simp only [address, RealmClient.authenticateUrl, h, checkInput, endpoint, bind, Except.bind]
  | introspect token =>
    simp only [address, RealmClient.tokenUrl, h, checkInput, endpoint, bind, Except.bind]
  | userClaims token =>
    simp only [address, RealmClient.tokenUrl, h, checkInput, endpoint, bind, Except.bind]
  | discover => simp only [address, h, checkInput, endpoint, bind, Except.bind]

/-- The request that it sends to its address. -/
def request (c : RealmClient) : Operation → Url → Request
  | authenticate user => c.tokenRequest user
  | introspect token => c.introspectionRequest token
  | userClaims token => RealmClient.userRequest token
  | discover => fun url => Request.addressed .get url [RealmClient.acceptJson] ""

/-- What the body of a successful response says. -/
def read (now : Instant) : Operation → String → Except Failure Answer
  | authenticate _ => fun body => (RealmClient.grantOf now body).map .grant
  | introspect _ => fun body =>
    (RealmClient.readDocument "introspection response" Introspection.parse body).map .introspection
  | userClaims _ => fun body =>
    (RealmClient.readDocument "userinfo response" UserClaims.parse body).map .claims
  | discover => fun body => (RealmClient.readDiscovery body).map .discovery

/-! ### What an operation comes to -/

/-- The requests that go out to an address, if there is one. -/
def sent (address : Except Failure Url) (request : Url → Request) (what : String) (e : Exchange) :
    List Request :=
  match address with
  | .error _ => []
  | .ok url => ((request url).perform what e).2

/-- The body that comes back from an address, if there is one. -/
def body (address : Except Failure Url) (request : Url → Request) (what : String) (e : Exchange) :
    Except Failure String :=
  address.bind fun url => ((request url).perform what e).1

theorem authenticate_result (c : RealmClient) (user : Credentials) (now : Instant) (e : Exchange) :
    (c.authenticate user now e).result
      = (body (c.authenticateUrl user) (c.tokenRequest user) "token response" e).bind
          (RealmClient.grantOf now) := by
  rw [RealmClient.authenticate]
  cases c.authenticateUrl user with
  | error failure => rfl
  | ok url => rfl

theorem authenticate_requests (c : RealmClient) (user : Credentials) (now : Instant)
    (e : Exchange) :
    (c.authenticate user now e).requests
      = sent (c.authenticateUrl user) (c.tokenRequest user) "token response" e := by
  rw [RealmClient.authenticate]
  cases c.authenticateUrl user with
  | error failure => rfl
  | ok url => rfl

theorem ask_result {α : Type} (what : String) (address : Except Failure Url)
    (request : Url → Request) (announced : Bool) (read : String → Except Failure α) (e : Exchange) :
    (RealmClient.ask what address request announced read e).result
      = (body address request what e).bind read := by
  cases address with
  | error failure => rfl
  | ok url => rfl

theorem ask_requests {α : Type} (what : String) (address : Except Failure Url)
    (request : Url → Request) (announced : Bool) (read : String → Except Failure α) (e : Exchange) :
    (RealmClient.ask what address request announced read e).requests
      = sent address request what e := by
  cases address with
  | error failure => rfl
  | ok url => rfl

/-- An operation without an address fails with the reason; any other sends its request and reads the
body of a successful response. -/
theorem result_eq (c : RealmClient) (op : Operation) (now : Instant) (e : Exchange) :
    (c.answer ⟨op.call, now, e⟩).result
      = (body (op.address c) (op.request c) op.what e).bind (op.read now) := by
  cases op with
  | authenticate user =>
    simp only [call, RealmClient.answer, Report.map]
    rw [authenticate_result, map_bind, address, request, what, read]
  | introspect token =>
    simp only [call, RealmClient.answer, Report.map]
    rw [RealmClient.introspect, ask_result, map_bind, address, request, what, read]
  | userClaims token =>
    simp only [call, RealmClient.answer, Report.map]
    rw [RealmClient.userClaims, ask_result, map_bind, address, request, what, read]
  | discover =>
    simp only [call, RealmClient.answer, Report.map]
    rw [RealmClient.discover, ask_result, map_bind, address, request, what, read]

/-- An operation sends the request to its address and no other. -/
theorem requests_eq (c : RealmClient) (op : Operation) (now : Instant) (e : Exchange) :
    (c.answer ⟨op.call, now, e⟩).requests = sent (op.address c) (op.request c) op.what e := by
  cases op with
  | authenticate user =>
    simp only [call, RealmClient.answer, Report.map]
    rw [authenticate_requests, address, request, what]
  | introspect token =>
    simp only [call, RealmClient.answer, Report.map]
    rw [RealmClient.introspect, ask_requests, address, request, what]
  | userClaims token =>
    simp only [call, RealmClient.answer, Report.map]
    rw [RealmClient.userClaims, ask_requests, address, request, what]
  | discover =>
    simp only [call, RealmClient.answer, Report.map]
    rw [RealmClient.discover, ask_requests, address, request, what]

/-- At most one request is sent: the one that was built for the address. -/
theorem sent_eq (address : Except Failure Url) (request : Url → Request) (what : String)
    (e : Exchange) :
    sent address request what e = []
      ∨ ∃ url, address = .ok url ∧ sent address request what e = [request url] := by
  cases address with
  | error failure => exact .inl rfl
  | ok url =>
    rcases Request.perform_requests what (request url) e with h | h
    · exact .inl h
    · exact .inr ⟨url, rfl, h⟩

end Operation

end PasswordGrant
