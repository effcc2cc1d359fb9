import PasswordGrant.Base64
import PasswordGrant.Json.Reader
import PasswordGrant.Text.Split

/-!
# The session that a token names

An access token may be a signed text of three parts between points, the middle one holding claims.
The session is looked up there when the server does not name it elsewhere. The signature is not
checked, and nothing read here is trusted.

* `SessionClaim.claims?` : the claims of a token of that form;
* `SessionClaim.find?` : the first claim that names a session.
-/

namespace PasswordGrant.SessionClaim

/-- A text without the equals signs at its end. -/
def dropPadding (cs : List Char) : List Char := (cs.reverse.dropWhile (· == '=')).reverse

/-- The claims of a token of three parts whose middle one holds an object. -/
def claims? (token : String) : Option (List (String × Json)) :=
  match Text.splitOn (· == '.') token.toList with
  | [_, middle, _] => do
    let bytes ← Base64.decodeUrl? (dropPadding middle)
    let cs ← Utf8.decode? bytes
    match Json.parse (String.ofList cs) with
    | .ok (.object members) => some members
    | _ => none
  | _ => none

/-- A claim that is a text and not empty. -/
def textClaim? (name : String) (members : List (String × Json)) : Option String :=
  ((Json.memberOf? name members).bind Json.text?).filter fun s => !s.isEmpty

/-- The session that a token names, under either of two names. -/
def find? (token : String) : Option String := do
  let members ← claims? token
  (textClaim? "sid" members).or (textClaim? "session_state" members)

end PasswordGrant.SessionClaim
