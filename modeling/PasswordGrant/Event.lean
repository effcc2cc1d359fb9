import PasswordGrant.Failure
import PasswordGrant.Log.Record

/-!
# What observers are told

An attempt to authenticate reports its progress as events. Observers never see a password or a
whole token: of an access token they get a preview. One observer keeps the events; another writes
log records.

* `Event` : the events; `Event.preview` : what is shown of a token;
* `Event.log` : the record that an event is logged as.
-/

namespace PasswordGrant

/-- Progress of an attempt. -/
inductive Event where
  | started (realm username : String)
  | requestSent (endpoint : String)
  | tokenObtained (sessionId tokenPreview : String) (expiresIn : Option Nat)
  | failed (failure : Failure)
  deriving DecidableEq, Repr

/-- How many characters of a token its preview shows. -/
def Event.previewLength : Nat := 8

/-- A short token as it is, and of a longer one only the beginning. -/
def Event.preview (token : String) : String :=
  if token.toList.length ≤ 12 then token
  else String.ofList (token.toList.take Event.previewLength ++ ['.', '.', '.'])

/-- The record that an event is logged as. -/
def Event.log : Event → LogRecord
  | .started realm username =>
    ⟨.debug, "authentication started", [("realm", realm), ("username", username)]⟩
  | .requestSent endpoint =>
    ⟨.debug, "request sent to identity server", [("endpoint", endpoint)]⟩
  | .tokenObtained sessionId tokenPreview expiresIn =>
    ⟨.info, "token obtained", [("session_id", sessionId), ("token_preview", tokenPreview),
      ("expires_in", LogRecord.optionText expiresIn)]⟩
  | .failed failure =>
    ⟨.warn, "authentication failed",
      [("category", failure.category.name), ("error", failure.message)]⟩

end PasswordGrant
