import PasswordGrant.Base64
import PasswordGrant.ErrorResponse
import PasswordGrant.Url.Basic

/-!
# One request and what becomes of it

A request goes out once and is answered, or it fails on the way. What the network does with it is a
value of its own, so that an operation is a function of its input and of that value.

* `Request` : what is sent; `Request.unsendable?` : why a request cannot be put on the wire;
* `Exchange` : what the network does with a request;
* `Request.perform` : the body of a successful response, or the failure, and the requests that
  reached a server.
-/

namespace PasswordGrant

/-- What a request does. -/
inductive Method where
  | get
  | post
  deriving DecidableEq, Repr

def Method.name : Method → String
  | .get => "GET"
  | .post => "POST"

/-- A request: its headers are in order, and names may repeat. -/
structure Request where
  method : Method
  url : Url
  headers : List (String × String)
  body : String
  deriving DecidableEq, Repr

/-- What the network does with a request. -/
inductive Exchange where
  /-- No connection is made. -/
  | unreachable
  /-- The connection is closed without a response. -/
  | closed
  /-- Nothing arrives within the time allowed. -/
  | stalled
  /-- A response arrives, but its body breaks off. -/
  | truncated (status : Nat)
  /-- A response arrives, but its body does not end within the time allowed. -/
  | stalledBody (status : Nat)
  /-- A response arrives. -/
  | answered (status : Nat) (body : List UInt8)
  deriving DecidableEq, Repr

namespace Request

/-- How the program presents itself to servers. -/
def userAgent : String := "ferrum-auth/0.1.0"

/-- The header for a user and a password. -/
def basicAuthorization (user : String) (password : String) : String × String :=
  let pair := Utf8.encode (user ++ ":" ++ password).toList
  ("authorization", "Basic " ++ String.ofList (Base64.encode pair))

/-- A request to an address. User information moves from the address to a header, unless it cannot
be decoded. -/
def addressed (method : Method) (url : Url) (headers : List (String × String)) (body : String) :
    Request :=
  match url.basicUser? with
  | none => ⟨method, url, headers, body⟩
  | some (user, password) =>
    ⟨method, url.withoutUserInfo, basicAuthorization user (password.getD "") :: headers, body⟩

/-- Whether a text can be the value of a header: it holds no control but the tab. -/
def isHeaderValue (s : String) : Bool :=
  s.toList.all fun c => c.toNat == 9 || (0x20 ≤ c.toNat && c.toNat != 0x7F)

/-- Characters of a host name that a request line cannot hold. -/
def isOddInHost (c : Char) : Bool := c = '"' || c = '\x60' || c = '\x7b' || c = '\x7d'

/-- The most bytes of an address that a request line can hold. -/
def lengthLimit : Nat := 65534

/-- Whether an address can stand in a request line. -/
def isTarget (u : Url) : Bool :=
  !u.host.text.toList.any isOddInHost && Utf8.size u.text.toList ≤ lengthLimit

/-- Why a request cannot be put on the wire. -/
def unsendable? (r : Request) : Option Failure :=
  if r.headers.any fun h => !isHeaderValue h.2 then some (.network "builder error")
  else if !isTarget r.url then
    some (.network ("builder error for url (" ++ r.url.text ++ ")"))
  else none

/-- The text of a failure to get a response. -/
def sendingText (r : Request) : String := "error sending request for url (" ++ r.url.text ++ ")"

/-- The text of a failure to read a body. -/
def decodingText (r : Request) : String :=
  "error decoding response body for url (" ++ r.url.text ++ ")"

def connectionFailure (r : Request) : Failure :=
  .network ("connection to " ++ r.url.host.text ++ " failed: " ++ r.sendingText)

/-- The body of a successful response, or the failure. `what` names the response in failures. -/
def outcome (what : String) (r : Request) : Exchange → Except Failure String
  | .unreachable => .error r.connectionFailure
  | .closed => .error (.network r.sendingText)
  | .stalled => .error (.network "request timed out")
  | .truncated _ => .error (.network ("failed to read " ++ what ++ ": " ++ r.decodingText))
  | .stalledBody _ => .error (.network ("timed out reading " ++ what))
  | .answered status bytes =>
    let body := String.ofList (Utf8.decodeLossy bytes)
    if Status.isSuccess status then .ok body else .error (ErrorResponse.classify status body)

/-- Whether a request reaches a server. -/
def arrives : Exchange → Bool
  | .unreachable => false
  | _ => true

/-- Sends a request: the body of a successful response or the failure, and the requests that
reached a server. -/
def perform (what : String) (r : Request) (e : Exchange) : Except Failure String × List Request :=
  match r.unsendable? with
  | some failure => (.error failure, [])
  | none => (r.outcome what e, if arrives e then [r] else [])

/-- The headers as they arrive: those of the request, the host, and how the program presents
itself. -/
def arrivingHeaders (r : Request) : List (String × String) :=
  r.headers ++ [("host", r.url.hostText), ("user-agent", userAgent)]

end Request

end PasswordGrant
