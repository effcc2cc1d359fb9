import PasswordGrant.Json.Typed

/-!
# What a realm says about a user

The answer of the userinfo endpoint: claims of any name and value. Of a repeated name the last
value counts.

* `UserClaims.parse` : reads an answer;
* `UserClaims.text?` : a claim that is a text.
-/

namespace PasswordGrant

/-- The claims about a user. -/
structure UserClaims where
  members : List (String × Json)
  deriving Repr

namespace UserClaims

def read (s : List Char) : Except Json.Fault (UserClaims × List Char) :=
  match Json.skipBlanks s with
  | [] => .error (.here .valueUnfinished [])
  | c :: rest =>
    if c = '\x7b' then
      (Json.readObject (Json.readValue (Json.depthLimit - 1)) rest).map fun r => (⟨r.1⟩, r.2)
    else .error (Json.wrongType "a map" (c :: rest))

/-- Reads a document that is an answer. -/
def parse (body : String) : Except Json.Fault UserClaims := Json.finish (read body.toList)

/-- A claim that is a text. -/
def text? (claims : UserClaims) (name : String) : Option String :=
  (Json.memberOf? name claims.members).bind Json.text?

def subject? (claims : UserClaims) : Option String := claims.text? "sub"

def preferredUsername? (claims : UserClaims) : Option String := claims.text? "preferred_username"

end UserClaims

end PasswordGrant
