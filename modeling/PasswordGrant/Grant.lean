import PasswordGrant.Failure
import PasswordGrant.Instant
import PasswordGrant.Text.Blank

/-!
# The outcome of an authentication

A grant is what one authentication attempt came to: an access token with what belongs to it, or,
with an empty access token, the failure. It is built in steps; each kind of step sets its own part.

* `Grant.new`, `Grant.failed` : the beginnings;
* `Grant.withTokenType`, `Grant.withLifetime`, `Grant.withRefreshToken`, `Grant.withScope` : steps;
* `Grant.isExpiring`, `Grant.secondsUntilExpiry` : two views of the expiry;
* `Grant.debug` : the diagnostic text, without the tokens.
-/

namespace PasswordGrant

/-- The outcome of an authentication attempt. -/
structure Grant where
  accessToken : String
  sessionId : String
  tokenType : String
  expiresAt : Option Instant
  refreshToken : Option String
  refreshExpiresAt : Option Instant
  scopes : List String
  obtainedAt : Instant
  failure : Option Failure
  deriving DecidableEq, Repr

namespace Grant

/-- The token type where the server names none. -/
def defaultTokenType : String := "Bearer"

/-- A bare token. -/
def new (accessToken sessionId : String) (now : Instant) : Grant where
  accessToken := accessToken
  sessionId := sessionId
  tokenType := defaultTokenType
  expiresAt := none
  refreshToken := none
  refreshExpiresAt := none
  scopes := []
  obtainedAt := now
  failure := none

/-- A failed attempt. -/
def failed (failure : Failure) (now : Instant) : Grant :=
  { new "" "" now with failure := some failure }

/-- The instant at which a lifetime ends, if there is one. -/
def expiryAfter (start : Instant) (lifetime : Nat) : Option Instant := start.addSeconds? lifetime

/-- Sets the token type; a blank one changes nothing. -/
def withTokenType (tokenType : String) (g : Grant) : Grant :=
  if Text.isBlankText tokenType then g else { g with tokenType := tokenType }

/-- Sets the lifetime of the access token, counted from when it was obtained. -/
def withLifetime (lifetime : Option Nat) (g : Grant) : Grant :=
  { g with expiresAt := lifetime.bind (expiryAfter g.obtainedAt) }

/-- Sets the refresh token and its lifetime. An empty token is none, a lifetime of zero is
unknown, and without a token there is no lifetime. -/
def withRefreshToken (token : Option String) (lifetime : Option Nat) (g : Grant) : Grant :=
  let token := token.filter fun t => !t.isEmpty
  let expiry :=
    if token.isSome then
      (lifetime.filter fun s => decide (0 < s)).bind (expiryAfter g.obtainedAt)
    else none
  { g with refreshToken := token, refreshExpiresAt := expiry }

def scopesOf (scope : Option String) : List String :=
  match scope with
  | none => []
  | some s => (Text.words s.toList).map String.ofList

/-- Sets the granted scopes. -/
def withScope (scope : Option String) (g : Grant) : Grant := { g with scopes := scopesOf scope }

def isSuccess (g : Grant) : Bool := !g.accessToken.isEmpty

/-- Whether the token expires within a buffer of seconds; never, if its expiry is unknown. -/
def isExpiring (g : Grant) (buffer : Int) (now : Instant) : Except Instant.OutOfRange Bool :=
  match g.expiresAt with
  | none => .ok false
  | some expiry => now.reaches buffer expiry

/-- Whole seconds until the token expires, toward zero. -/
def secondsUntilExpiry (g : Grant) (now : Instant) : Option Int :=
  g.expiresAt.map now.secondsUntil

/-- What to send along to use the token. -/
def authorizationHeader (g : Grant) : Option String :=
  if g.isSuccess then some (g.tokenType ++ " " ++ g.accessToken) else none

/-- A token in a diagnostic: only whether there is one. -/
def redact (token : String) : String := if token.isEmpty then "" else "<redacted>"

def debugInstant : Option Instant → String
  | none => "None"
  | some t => "Some(" ++ t.text ++ ")"

/-- The diagnostic text, without the tokens. -/
def debug (g : Grant) : String :=
  Quoted.record "TokenResult"
    [("access_token", Quoted.quote (redact g.accessToken)),
     ("session_id", Quoted.quote g.sessionId),
     ("token_type", Quoted.quote g.tokenType),
     ("expires_at", debugInstant g.expiresAt),
     ("refresh_token", Quoted.quoteOption (g.refreshToken.map redact)),
     ("refresh_expires_at", debugInstant g.refreshExpiresAt),
     ("scopes", Quoted.quoteList g.scopes),
     ("obtained_at", g.obtainedAt.text),
     ("failure", match g.failure with
       | none => "None"
       | some f => "Some(" ++ f.debug ++ ")")]

/-- The line that tells a person the outcome. -/
def outcomeLine (g : Grant) : String :=
  if g.isSuccess then "Successful authentication: " ++ g.sessionId else "Authentication failed"

end Grant

end PasswordGrant
