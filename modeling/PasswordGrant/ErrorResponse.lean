import PasswordGrant.Failure
import PasswordGrant.Http.Status
import PasswordGrant.Json.Record
import PasswordGrant.Text.Blank

/-!
# The answer of a server that refuses

A refusal should say why in a payload with an error and perhaps a description, in either of two
spellings. Where it does not, the beginning of its text stands in, or the reason phrase of its
status.

* `ErrorResponse.parse?` : the payload, if the body is one;
* `ErrorResponse.ofBody` : the payload or what stands in for it;
* `ErrorResponse.classify` : the failure that a refusal means.
-/

namespace PasswordGrant

/-- What a refusal says. -/
structure ErrorResponse where
  error : String
  description : Option String
  deriving DecidableEq, Repr

namespace ErrorResponse

def schema : Json.Schema where
  name := "TokenErrorResponse"
  fields :=
    [⟨"error", ["Msg"], .text, true⟩,
     .spelled "error_description" "Description" .optionalText]

/-- The payload of a body, with an empty description as none. -/
def parse? (body : String) : Option ErrorResponse :=
  match schema.parse body with
  | .error _ => none
  | .ok slots => some
    { error := (slots.text? "error").getD ""
      description := (slots.text? "error_description").filter fun s => !s.isEmpty }

/-- The most characters of a body without payload that are kept. -/
def excerptLimit : Nat := 200

/-- What stands in for a payload: the beginning of the trimmed body, or the reason phrase. -/
def excerpt (status : Nat) (body : String) : String :=
  let text := Text.trimChars body.toList
  if text.isEmpty then (Status.reason? status).getD "unknown error"
  else String.ofList (text.take excerptLimit)

/-- What a refusal says. -/
def ofBody (status : Nat) (body : String) : ErrorResponse :=
  (parse? body).getD ⟨excerpt status body, none⟩

/-- The code of an error text: trimmed, in lower case and with underscores for spaces. -/
def code (error : String) : String :=
  String.ofList ((Text.trimChars error.toList).map fun c => if c = ' ' then '_' else c.toLower)

/-- Whether a code blames the client and not the user. -/
def blamesClient (code : String) : Bool :=
  code == "invalid_client" || code == "unauthorized_client"

/-- The failure that a refusal means: the user's credentials are wrong if the status or the code
says so and the client is not to blame. -/
def toFailure (status : Nat) (r : ErrorResponse) : Failure :=
  let code := code r.error
  if !blamesClient code && (status == 401 || code == "invalid_grant") then
    .invalidCredentials (r.description.getD r.error)
  else .rejected status r.error r.description

/-- The failure that a response with a refusing status means. -/
def classify (status : Nat) (body : String) : Failure := (ofBody status body).toFailure status

end ErrorResponse

end PasswordGrant
