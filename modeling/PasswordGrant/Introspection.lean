import PasswordGrant.Json.Record

/-!
# What a server says about a token

The answer of the introspection endpoint. All fields may be missing; the audience comes as one text
or as a list.

* `Introspection.parse` : reads an answer;
* `Introspection.toJson` : the answer as a document with all its fields.
-/

namespace PasswordGrant

/-- What a server says about a token. -/
structure Introspection where
  active : Bool
  exp : Option Int
  nbf : Option Int
  iat : Option Int
  aud : List String
  authTime : Option Int
  jti : Option String
  tokenType : Option String
  sub : Option String
  scope : Option String
  username : Option String
  clientId : Option String
  deriving DecidableEq, Repr

namespace Introspection

/-- The fields of an answer, in the order of the array form. -/
def schema : Json.Schema where
  name := "TokenIntrospection"
  fields :=
    [.plain "active" .flag, .plain "exp" .optionalInteger, .plain "nbf" .optionalInteger,
     .plain "iat" .optionalInteger, .plain "aud" .audience, .plain "auth_time" .optionalInteger,
     .plain "jti" .optionalText, .plain "typ" .optionalText, .plain "sub" .optionalText,
     .plain "scope" .optionalText, .plain "username" .optionalText,
     .plain "client_id" .optionalText]

/-- The answer whose fields were read. -/
def ofSlots (slots : Json.Slots) : Introspection where
  active := slots.flag "active"
  exp := slots.integer? "exp"
  nbf := slots.integer? "nbf"
  iat := slots.integer? "iat"
  aud := slots.texts "aud"
  authTime := slots.integer? "auth_time"
  jti := slots.text? "jti"
  tokenType := slots.text? "typ"
  sub := slots.text? "sub"
  scope := slots.text? "scope"
  username := slots.text? "username"
  clientId := slots.text? "client_id"

/-- Reads an answer. -/
def parse (body : String) : Except Json.Fault Introspection := (schema.parse body).map ofSlots

def textJson : Option String → Json
  | none => .null
  | some s => .text s

def integerJson : Option Int → Json
  | none => .null
  | some i => if i < 0 then .number (.negative i) else .number (.natural i.toNat)

/-- The answer as a document. -/
def toJson (i : Introspection) : Json :=
  .object
    [("active", .bool i.active), ("exp", integerJson i.exp), ("nbf", integerJson i.nbf),
     ("iat", integerJson i.iat), ("aud", .array (i.aud.map .text)),
     ("auth_time", integerJson i.authTime), ("jti", textJson i.jti), ("typ", textJson i.tokenType),
     ("sub", textJson i.sub), ("scope", textJson i.scope), ("username", textJson i.username),
     ("client_id", textJson i.clientId)]

end Introspection

end PasswordGrant
