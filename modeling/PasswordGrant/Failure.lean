import PasswordGrant.Text.Quoted

/-!
# Why an authentication attempt failed

Every way in which an attempt can fail, its wording, the coarse category that callers act on, and
whether it was found before anything was sent.

* `Failure` : the causes;
* `Failure.message` : the text for people;
* `Failure.category`, `Failure.isLocal` : what callers and logs go by.
-/

namespace PasswordGrant

/-- A cause of failure. -/
inductive Failure where
  /-- The configuration cannot be used. -/
  | configuration (message : String)
  /-- The caller's input cannot be used. -/
  | invalidRequest (message : String)
  /-- No usable response arrived. -/
  | network (message : String)
  /-- The server does not accept the user's credentials. -/
  | invalidCredentials (message : String)
  /-- The server refused the request for another reason. -/
  | rejected (status : Nat) (error : String) (description : Option String)
  /-- The response is not what was asked for. -/
  | malformedResponse (message : String)
  deriving DecidableEq, Repr

/-- The category of a failure. -/
inductive Category where
  | networkFailure
  | invalidCredentials
  | malformedResponse
  | configurationError
  deriving DecidableEq, Repr

def Category.name : Category → String
  | .networkFailure => "NetworkFailure"
  | .invalidCredentials => "InvalidCredentials"
  | .malformedResponse => "MalformedResponse"
  | .configurationError => "ConfigurationError"

namespace Failure

/-- The text for people. -/
def message : Failure → String
  | .configuration m => "invalid configuration: " ++ m
  | .invalidRequest m => "invalid request: " ++ m
  | .network m => "network error: " ++ m
  | .invalidCredentials m => "invalid user credentials: " ++ m
  | .rejected status error _ => "request rejected with status " ++ status.repr ++ ": " ++ error
  | .malformedResponse m => "malformed response: " ++ m

/-- The category: a server's own trouble counts as the network's. -/
def category : Failure → Category
  | .configuration _ => .configurationError
  | .invalidRequest _ => .invalidCredentials
  | .network _ => .networkFailure
  | .invalidCredentials _ => .invalidCredentials
  | .rejected status _ _ => if 500 ≤ status then .networkFailure else .configurationError
  | .malformedResponse _ => .malformedResponse

/-- Whether the failure was found before anything was sent. -/
def isLocal : Failure → Bool
  | .configuration _ => true
  | .invalidRequest _ => true
  | _ => false

def debug : Failure → String
  | .configuration m => Quoted.record "Configuration" [("message", Quoted.quote m)]
  | .invalidRequest m => Quoted.record "InvalidRequest" [("message", Quoted.quote m)]
  | .network m => Quoted.record "Network" [("message", Quoted.quote m)]
  | .invalidCredentials m => Quoted.record "InvalidCredentials" [("message", Quoted.quote m)]
  | .rejected status error description => Quoted.record "Rejected"
      [("status", status.repr), ("error", Quoted.quote error),
       ("description", Quoted.quoteOption description)]
  | .malformedResponse m => Quoted.record "MalformedResponse" [("message", Quoted.quote m)]

end Failure

end PasswordGrant
