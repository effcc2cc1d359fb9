import PasswordGrant.Discovery
import PasswordGrant.Event
import PasswordGrant.Http.Request
import PasswordGrant.Introspection
import PasswordGrant.RealmClient
import PasswordGrant.TokenResponse
import PasswordGrant.UserClaims

/-!
# What a client can ask of its realm

Four operations: obtaining a token with a password, asking what a token is worth, asking about the
user of a token, and asking the realm about itself. Each checks its input, sends at most one
request, and reports its result, the requests that reached the server and the events.

* `Report` : what an operation came to;
* `RealmClient.authenticate`, `RealmClient.introspect`, `RealmClient.userClaims`,
  `RealmClient.discover` : the operations.
-/

namespace PasswordGrant

/-- What an operation came to. -/
structure Report (α : Type) where
  result : Except Failure α
  requests : List Request
  events : List Event

namespace RealmClient

def acceptJson : String × String := ("accept", "application/json")

def formContent : String × String := ("content-type", "application/x-www-form-urlencoded")

/-! ### Obtaining a token -/

/-- The address of the token endpoint, if user and client can be sent. -/
def authenticateUrl (c : RealmClient) (user : Credentials) : Except Failure Url := do
  user.validate
  c.validate
  c.endpointUrl .token

def tokenRequest (c : RealmClient) (user : Credentials) (url : Url) : Request :=
  Request.addressed .post url [formContent, acceptJson] (c.passwordForm user)

/-- The event that ends an attempt. -/
def finalEvent : Except Failure Grant → Event
  | .ok grant =>
    .tokenObtained grant.sessionId (Event.preview grant.accessToken)
      ((grant.secondsUntilExpiry grant.obtainedAt).bind fun s =>
        if 0 ≤ s then some s.toNat else none)
  | .error failure => .failed failure

/-- The grant of the body of a token response. -/
def grantOf (now : Instant) (body : String) : Except Failure Grant :=
  (TokenResponse.parse body).map fun r => r.toGrant now

/-- Obtains a token with a password. -/
def authenticate (c : RealmClient) (user : Credentials) (now : Instant) (e : Exchange) :
    Report Grant :=
  let started := Event.started c.realm user.username
  match c.authenticateUrl user with
  | .error failure => ⟨.error failure, [], [started, .failed failure]⟩
  | .ok url =>
    let (body, requests) := (c.tokenRequest user url).perform "token response" e
    let result := body.bind (grantOf now)
    ⟨result, requests, [started, .requestSent url.text, finalEvent result]⟩

/-! ### Asking about a token -/

def requireToken (token : String) : Except Failure Unit :=
  if Text.isBlankText token then .error (.invalidRequest "access token must not be empty")
  else .ok ()

/-- The address of an endpoint that is asked about a token, if token and client can be sent. -/
def tokenUrl (c : RealmClient) (token : String) (endpoint : Endpoint) : Except Failure Url := do
  requireToken token
  c.validate
  c.endpointUrl endpoint

/-- Sends a request to an address, if there is one, and reads the response. -/
def ask {α : Type} (what : String) (url : Except Failure Url) (request : Url → Request)
    (announced : Bool) (read : String → Except Failure α) (e : Exchange) : Report α :=
  match url with
  | .error failure => ⟨.error failure, [], []⟩
  | .ok url =>
    let (body, requests) := (request url).perform what e
    ⟨body.bind read, requests, if announced then [.requestSent url.text] else []⟩

/-- Reads a document; what is wrong with it makes the response malformed. -/
def readDocument {α : Type} (what : String) (parse : String → Except Json.Fault α)
    (body : String) : Except Failure α :=
  match parse body with
  | .ok x => .ok x
  | .error f => .error (.malformedResponse ("invalid " ++ what ++ ": " ++ f.message body.toList))

/-- The request about a token: a client with a secret shows it in a header, one without names
itself in the form. -/
def introspectionRequest (c : RealmClient) (token : String) (url : Url) : Request :=
  let fields := [("token", token), ("token_type_hint", "access_token")]
  match c.secretToSend with
  | some secret =>
    Request.addressed .post url
      [Request.basicAuthorization c.clientId secret, formContent, acceptJson]
      (Form.encode fields)
  | none =>
    Request.addressed .post url [formContent, acceptJson]
      (Form.encode (fields ++ [("client_id", c.clientId)]))

/-- Asks what a token is worth. -/
def introspect (c : RealmClient) (token : String) (e : Exchange) : Report Introspection :=
  ask "introspection response" (c.tokenUrl token .introspection) (c.introspectionRequest token)
    true (readDocument "introspection response" Introspection.parse) e

/-- The request about the user of a token. -/
def userRequest (token : String) (url : Url) : Request :=
  Request.addressed .get url [("authorization", "Bearer " ++ token), acceptJson] ""

/-- Asks about the user of a token. -/
def userClaims (c : RealmClient) (token : String) (e : Exchange) : Report UserClaims :=
  ask "userinfo response" (c.tokenUrl token .userinfo) (userRequest token) true
    (readDocument "userinfo response" UserClaims.parse) e

/-! ### Asking the realm about itself -/

/-- Reads a discovery document, which must name the token endpoint. -/
def readDiscovery (body : String) : Except Failure Discovery := do
  let document ← readDocument "discovery document" Discovery.parse body
  if document.tokenEndpoint.isEmpty then
    .error (.malformedResponse "discovery document has no token_endpoint")
  else .ok document

/-- Asks the realm about itself; observers are not told. -/
def discover (c : RealmClient) (e : Exchange) : Report Discovery :=
  ask "discovery document" (do c.validate; c.endpointUrl .discovery)
    (fun url => Request.addressed .get url [acceptJson] "") false readDiscovery e

end RealmClient

end PasswordGrant
