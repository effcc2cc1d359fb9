import PasswordGrant.Authenticator
import PasswordGrant.Discovery
import PasswordGrant.ErrorResponse
import PasswordGrant.Event
import PasswordGrant.Introspection
import PasswordGrant.Main
import PasswordGrant.Proofs.AddressPassword
import PasswordGrant.Proofs.Base64Url
import PasswordGrant.Proofs.Building
import PasswordGrant.Proofs.ClientIdentity
import PasswordGrant.Proofs.Console
import PasswordGrant.Proofs.Diagnostic
import PasswordGrant.Proofs.Documents
import PasswordGrant.Proofs.Expiry
import PasswordGrant.Proofs.ExpiryBuffer
import PasswordGrant.Proofs.Json.Lookup
import PasswordGrant.Proofs.Lifetime
import PasswordGrant.Proofs.Locality
import PasswordGrant.Proofs.PasswordForm
import PasswordGrant.Proofs.Realm.Confinement
import PasswordGrant.Proofs.Realm.Frame
import PasswordGrant.Proofs.Realm.Isolation
import PasswordGrant.Proofs.Realm.Refusal
import PasswordGrant.Proofs.Realm.Slashes
import PasswordGrant.Proofs.RefusalBody
import PasswordGrant.Proofs.ResponseShape
import PasswordGrant.Proofs.Secrecy
import PasswordGrant.Proofs.SessionClaim
import PasswordGrant.Proofs.Settings.Layering
import PasswordGrant.Proofs.SignIn
import PasswordGrant.Proofs.TokenPreview
import PasswordGrant.Proofs.TokenUse
import PasswordGrant.Proofs.Trace
import PasswordGrant.Session
import PasswordGrant.TokenResponse
import PasswordGrant.UserClaims
