import PasswordGrant.Operations

/-!
# Signing in

Signing in never fails: whatever an attempt answers becomes a grant, so that callers only ask
whether there is a token.

* `Grant.ofAttempt` : the grant of an attempt's answer;
* `RealmClient.signIn` : signing in at a realm.
-/

namespace PasswordGrant

/-- The grant of an attempt's answer. An answer without a token is a failure too. -/
def Grant.ofAttempt (now : Instant) : Except Failure Grant → Grant
  | .ok grant =>
    if grant.isSuccess then grant
    else Grant.failed (grant.failure.getD (.malformedResponse "empty access token")) now
  | .error failure => Grant.failed failure now

/-- Signs in at a realm. -/
def RealmClient.signIn (c : RealmClient) (user : Credentials) (now : Instant) (e : Exchange) :
    Grant × Report Grant :=
  let report := c.authenticate user now e
  (Grant.ofAttempt now report.result, report)

end PasswordGrant
