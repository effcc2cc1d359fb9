import PasswordGrant.Credentials
import PasswordGrant.Form
import PasswordGrant.Json.Typed
import PasswordGrant.Url.Parser

/-!
# A client of a realm

A client is registered at a realm of a server. Its configuration says where the server is, which
realm and client are meant, and, for a client that can keep one, the secret. From it follow the
endpoints of the realm.

* `ClientKind`, `RealmClient` : the configuration;
* `RealmClient.validate` : whether requests can be built from it;
* `RealmClient.realmUrl`, `RealmClient.endpointUrl` : the addresses of a realm;
* `RealmClient.passwordForm` : the form that asks for a token.
-/

namespace PasswordGrant

/-- Whether a client can keep a secret. -/
inductive ClientKind where
  | isPublic
  | confidential
  deriving DecidableEq, Repr

namespace ClientKind

/-- The kind of a client where none is named. -/
def default : ClientKind := .confidential

def requiresSecret : ClientKind → Bool
  | .isPublic => false
  | .confidential => true

/-- The name of a kind in documents and settings. -/
def name : ClientKind → String
  | .isPublic => "public"
  | .confidential => "confidential"

def names : List String := ["public", "confidential"]

def ofName? (s : String) : Option ClientKind :=
  if s = "public" then some .isPublic
  else if s = "confidential" then some .confidential
  else none

def debug : ClientKind → String
  | .isPublic => "Public"
  | .confidential => "Confidential"

def parse (s : String) : Except Json.Fault ClientKind :=
  (Json.finish (Json.readVariant names s.toList)).map fun n => (ofName? n).getD default

end ClientKind

/-- The configuration of a client. -/
structure RealmClient where
  baseUrl : String
  realm : String
  kind : ClientKind
  clientId : String
  secret : String
  contextPath : String
  deriving DecidableEq, Repr

/-- The endpoints of a realm. -/
inductive Endpoint where
  | token
  | introspection
  | userinfo
  | discovery
  deriving DecidableEq, Repr

/-- The path of an endpoint below its realm. -/
def Endpoint.segments : Endpoint → List String
  | .token => ["protocol", "openid-connect", "token"]
  | .introspection => ["protocol", "openid-connect", "token", "introspect"]
  | .userinfo => ["protocol", "openid-connect", "userinfo"]
  | .discovery => [".well-known", "openid-configuration"]

namespace RealmClient

def defaultContextPath : String := "auth"

def new (baseUrl realm : String) (kind : ClientKind) (clientId secret : String) : RealmClient :=
  ⟨baseUrl, realm, kind, clientId, secret, defaultContextPath⟩

def ofPublic (baseUrl realm clientId : String) : RealmClient :=
  new baseUrl realm .isPublic clientId ""

/-- A text without the slashes at its ends. -/
def trimSlashes (s : String) : String :=
  String.ofList (((s.toList.dropWhile (· == '/')).reverse.dropWhile (· == '/')).reverse)

def withContextPath (contextPath : String) (c : RealmClient) : RealmClient :=
  { c with contextPath := trimSlashes contextPath }

def secretToSend (c : RealmClient) : Option String :=
  if c.kind.requiresSecret then some c.secret else none

/-- The address of the server: an absolute address of the web. -/
def parsedBaseUrl (c : RealmClient) : Except Failure Url :=
  match Address.parse (Text.trim c.baseUrl) with
  | .error e =>
    .error (.configuration ("invalid base URL '" ++ c.baseUrl ++ "': " ++ e.message))
  | .ok (.other scheme) => .error (.configuration ("unsupported URL scheme '" ++ scheme ++ "'"))
  | .ok (.web url) => .ok url

/-- Whether requests can be built: the address is one, and nothing needed is blank. -/
def validate (c : RealmClient) : Except Failure Unit :=
  match c.parsedBaseUrl with
  | .error e => .error e
  | .ok _ =>
    if Text.isBlankText c.realm then .error (.configuration "realm must not be empty")
    else if Text.isBlankText c.clientId then .error (.configuration "client id must not be empty")
    else if c.kind.requiresSecret && Text.isBlankText c.secret then
      .error (.configuration "confidential client requires a client secret")
    else .ok ()

/-- The segments of the context path that are not empty. -/
def contextSegments (c : RealmClient) : List String :=
  ((Text.splitOn (· == '/') c.contextPath.toList).filter fun s => !s.isEmpty).map String.ofList

/-- The path of the realm, put after the path of the server. -/
def realmPath (c : RealmClient) (base : Path) : Path :=
  base.dropFinalSlash.pushAll (c.contextSegments ++ ["realms", c.realm])

/-- The address with a path that is made from its own, which must consist of segments. -/
def editPath (url : Url) (edit : Path → Path) : Except Failure Url :=
  if url.cannotBeBase then .error (.configuration "base URL cannot be a base")
  else .ok { url with path := edit url.path }

/-- The address of the realm. -/
def realmUrl (c : RealmClient) : Except Failure Url := do
  let url ← c.parsedBaseUrl
  editPath url c.realmPath

/-- The address of an endpoint of the realm. -/
def endpointUrl (c : RealmClient) (e : Endpoint) : Except Failure Url := do
  let url ← c.realmUrl
  editPath url fun path => path.pushAll e.segments

theorem editPath_eq (url : Url) (edit : Path → Path) :
    editPath url edit = .ok { url with path := edit url.path } := by
  rw [editPath, url.cannotBeBase_eq_false]
  rfl

theorem realmUrl_eq_map (c : RealmClient) :
    c.realmUrl = c.parsedBaseUrl.map fun url => { url with path := c.realmPath url.path } := by
  rw [realmUrl]
  cases c.parsedBaseUrl with
  | error failure => rfl
  | ok url => exact editPath_eq url c.realmPath

theorem endpointUrl_eq_map (c : RealmClient) (e : Endpoint) :
    c.endpointUrl e = c.parsedBaseUrl.map fun url =>
      { url with path := (c.realmPath url.path).pushAll e.segments } := by
  rw [endpointUrl, realmUrl_eq_map]
  cases c.parsedBaseUrl with
  | error failure => rfl
  | ok url =>
    exact editPath_eq { url with path := c.realmPath url.path } fun path => path.pushAll e.segments

/-- The fields of the form that asks for a token. -/
def passwordFields (c : RealmClient) (user : Credentials) : List (String × String) :=
  [("grant_type", "password"), ("client_id", c.clientId)]
    ++ (c.secretToSend.map fun s => ("client_secret", s)).toList
    ++ [("username", user.username), ("password", user.password)]
    ++ (user.requestedScope.map fun s => ("scope", s)).toList

/-- The form that asks for a token. -/
def passwordForm (c : RealmClient) (user : Credentials) : String :=
  Form.encode (c.passwordFields user)

def debug (c : RealmClient) : String :=
  Quoted.record "ServerConfig"
    [("base_url", Quoted.quote c.baseUrl), ("realm", Quoted.quote c.realm),
     ("client_type", c.kind.debug), ("client_id", Quoted.quote c.clientId),
     ("client_secret", Quoted.quote "<redacted>"),
     ("context_path", Quoted.quote c.contextPath)]

end RealmClient

end PasswordGrant
