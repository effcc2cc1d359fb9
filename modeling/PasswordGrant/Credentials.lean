import PasswordGrant.Failure
import PasswordGrant.Text.Blank

/-!
# User credentials

What a user presents to obtain a token: a name, a password and the scopes asked for. The password
never shows in a diagnostic.

* `Credentials.validate` : a name that is blank or a password that is empty cannot be sent;
* `Credentials.requestedScope` : the scopes asked for, if any.
-/

namespace PasswordGrant

/-- A user's credentials. -/
structure Credentials where
  username : String
  password : String
  scope : String
  deriving DecidableEq, Repr

namespace Credentials

/-- Refuses a blank name and an empty password. -/
def validate (c : Credentials) : Except Failure Unit :=
  if Text.isBlankText c.username then .error (.invalidRequest "username must not be empty")
  else if c.password.isEmpty then .error (.invalidRequest "password must not be empty")
  else .ok ()

/-- The scopes asked for without outer blanks; `none` when there are none. -/
def requestedScope (c : Credentials) : Option String :=
  let scope := Text.trim c.scope
  if scope.isEmpty then none else some scope

def debug (c : Credentials) : String :=
  Quoted.record "Credentials"
    [("username", Quoted.quote c.username), ("password", Quoted.quote "<redacted>"),
     ("scope", Quoted.quote c.scope)]

end Credentials

end PasswordGrant
