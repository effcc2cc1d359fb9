import PasswordGrant.Proofs.Form
import PasswordGrant.RealmClient

/-!
# What the form of a password says

A server that reads the form of a password finds the fields of the request and nothing else, each under
a name of its own and each with the text that was meant. So no user name, password or secret can pass
for another field.

* `Credentials.requestedScope_eq` : a scope is asked for unless it is blank;
* `RealmClient.decode_passwordForm` : what is read from the form.
-/

namespace PasswordGrant

/-- A scope is asked for unless it is blank, and without the blanks around it. -/
theorem Credentials.requestedScope_eq (user : Credentials) :
    user.requestedScope = if Text.isBlankText user.scope then none else some (Text.trim user.scope) := by
  rw [requestedScope, (Text.isTrimmed_trim user.scope).isEmpty_eq]

/-! ### The fields of the form -/

namespace RealmClient

theorem secretToSend_eq (c : RealmClient) :
    c.secretToSend = if c.kind = .confidential then some c.secret else none := by
  rw [secretToSend]
  cases c.kind <;> rfl

theorem nodup_passwordFields (c : RealmClient) (user : Credentials) :
    ((c.passwordFields user).map Prod.fst).Nodup := by
  have hnames : (c.passwordFields user).map Prod.fst = ["grant_type", "client_id"]
      ++ (c.secretToSend.map fun _ => "client_secret").toList ++ ["username", "password"]
      ++ (user.requestedScope.map fun _ => "scope").toList := by
    rw [passwordFields]
    cases c.secretToSend <;> cases user.requestedScope <;> rfl
  rw [hnames]
  cases c.secretToSend <;> cases user.requestedScope
  all_goals
    dsimp only [Option.map, Option.toList]
    decide

/-- Whoever reads the form finds the kind of the request, the client, the secret of a confidential
client, the user name, the password and, unless it is blank, the scope without the blanks around it:
these fields, in this order and no others, with the texts that were given, and no name twice. -/
theorem decode_passwordForm (c : RealmClient) (user : Credentials) :
    Form.decode (c.passwordForm user)
        = [("grant_type", "password"), ("client_id", c.clientId)]
          ++ (if c.kind = .confidential then [("client_secret", c.secret)] else [])
          ++ [("username", user.username), ("password", user.password)]
          ++ (if Text.isBlankText user.scope then [] else [("scope", Text.trim user.scope)]) ∧
      ((Form.decode (c.passwordForm user)).map Prod.fst).Nodup ∧
      Text.IsTrimmed (Text.trim user.scope) user.scope := by
  have hdecode : Form.decode (c.passwordForm user) = c.passwordFields user := Form.decode_encode _
  refine ⟨?_, ?_, Text.isTrimmed_trim user.scope⟩
  · rw [hdecode, passwordFields, secretToSend_eq, Credentials.requestedScope_eq]
    by_cases hsecret : c.kind = .confidential <;> by_cases hscope : Text.isBlankText user.scope
    all_goals simp [hsecret, hscope]
  · rw [hdecode]
    exact nodup_passwordFields c user

end RealmClient

end PasswordGrant
