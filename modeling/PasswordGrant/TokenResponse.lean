import PasswordGrant.Grant
import PasswordGrant.Json.Record
import PasswordGrant.SessionClaim

/-!
# The answer of the token endpoint

A successful answer carries the token and its lifetimes. Two families of servers spell the fields
differently; both spellings are read.

* `TokenResponse.parse` : reads an answer; one without an access token is malformed;
* `TokenResponse.toGrant` : the grant that it stands for.
-/

namespace PasswordGrant

/-- The answer of the token endpoint. -/
structure TokenResponse where
  accessToken : String
  expiresIn : Option Nat
  refreshToken : Option String
  refreshExpiresIn : Option Nat
  tokenType : Option String
  sessionState : Option String
  scope : Option String
  deriving DecidableEq, Repr

namespace TokenResponse

/-- The fields of an answer, in the order of the array form. -/
def schema : Json.Schema where
  name := "TokenResponse"
  fields :=
    [.spelled "access_token" "AccessToken" .text,
     .spelled "expires_in" "Expires" .optionalNatural,
     .spelled "refresh_token" "RefreshToken" .optionalText,
     .spelled "refresh_expires_in" "RefreshExpires" .optionalNatural,
     .spelled "token_type" "TokenType" .optionalText,
     .spelled "session_state" "Session" .optionalText,
     .spelled "scope" "Scope" .optionalText]

def ofSlots (slots : Json.Slots) : TokenResponse where
  accessToken := (slots.text? "access_token").getD ""
  expiresIn := slots.natural? "expires_in"
  refreshToken := slots.text? "refresh_token"
  refreshExpiresIn := slots.natural? "refresh_expires_in"
  tokenType := slots.text? "token_type"
  sessionState := slots.text? "session_state"
  scope := slots.text? "scope"

/-- Reads an answer. -/
def parse (body : String) : Except Failure TokenResponse :=
  match schema.parse body with
  | .error f =>
    .error (.malformedResponse ("invalid token response: " ++ f.message body.toList))
  | .ok slots =>
    let response := ofSlots slots
    if response.accessToken.isEmpty then
      .error (.malformedResponse "token response has no access_token")
    else .ok response

/-- The session: as the answer states it, else as the token claims it, else none. -/
def sessionId (r : TokenResponse) : String :=
  ((r.sessionState.filter fun s => !s.isEmpty).or (SessionClaim.find? r.accessToken)).getD ""

/-- The grant of an answer that arrived at an instant. A lifetime of zero is unknown. -/
def toGrant (r : TokenResponse) (now : Instant) : Grant :=
  (((Grant.new r.accessToken r.sessionId now
    |>.withTokenType (r.tokenType.getD ""))
    |>.withLifetime (r.expiresIn.filter fun s => decide (0 < s)))
    |>.withRefreshToken r.refreshToken r.refreshExpiresIn)
    |>.withScope r.scope

end TokenResponse

end PasswordGrant
