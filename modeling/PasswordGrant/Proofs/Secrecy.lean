import Mathlib.Data.List.Forall2
import PasswordGrant.Proofs.Form
import PasswordGrant.Proofs.Header
import PasswordGrant.Session

/-!
# Where secrets go

A password and the secret of a client reach the wire and nothing else. Two sessions that differ only
in these secrets come to the same results, tell observers the same events, log the same records, and
show the same texts; what they send differs in the fields and the header that carry the secrets, and
nowhere else.

* `Credentials.Alike`, `RealmClient.Alike`, `Step.Alike` : what differs only in its secrets;
* `Request.Alike`, `Report.Alike` : what may differ of what is sent, and nothing of what is told;
* `Request.HeaderAlike.isHeaderValue_eq` : no secret makes a header unsendable;
* `RealmClient.answer_alike` : one step;
* `RealmClient.session_alike` : whole sessions.
-/

namespace PasswordGrant

/-! ### What differs only in its secrets -/

/-- Credentials that differ in their passwords at most, none of which is empty. -/
structure Credentials.Alike (u v : Credentials) : Prop where
  username : u.username = v.username
  scope : u.scope = v.scope
  left_password : u.password.isEmpty = false
  right_password : v.password.isEmpty = false

/-- Clients that differ in their secrets at most, which are not blank if they are sent along. -/
structure RealmClient.Alike (c d : RealmClient) : Prop where
  baseUrl : c.baseUrl = d.baseUrl
  realm : c.realm = d.realm
  kind : c.kind = d.kind
  clientId : c.clientId = d.clientId
  contextPath : c.contextPath = d.contextPath
  secrets : c.kind = .confidential →
    Text.isBlankText c.secret = false ∧ Text.isBlankText d.secret = false

/-- Calls with the same input up to a password. -/
inductive Call.Alike : Call → Call → Prop
  | authenticate {u v : Credentials} (h : u.Alike v) : Alike (.authenticate u) (.authenticate v)
  | signIn {u v : Credentials} (h : u.Alike v) : Alike (.signIn u) (.signIn v)
  | introspect (token : String) : Alike (.introspect token) (.introspect token)
  | userClaims (token : String) : Alike (.userClaims token) (.userClaims token)
  | discover : Alike .discover .discover

/-- Steps at the same time and with the same luck on the network. -/
inductive Step.Alike : Step → Step → Prop
  | intro {a b : Call} (h : a.Alike b) (now : Instant) (e : Exchange) :
      Alike ⟨a, now, e⟩ ⟨b, now, e⟩

/-! ### What may differ on the wire -/

namespace Request

/-- Fields of a form may differ in the value of a password or a client's secret. -/
inductive FieldAlike : String × String → String × String → Prop
  | same (p : String × String) : FieldAlike p p
  | hidden {name : String} (h : name = "password" ∨ name = "client_secret") (v w : String) :
      FieldAlike (name, v) (name, w)

/-- Headers may differ if they carry the secrets of two clients. -/
inductive HeaderAlike (c d : RealmClient) : String × String → String × String → Prop
  | same (h : String × String) : HeaderAlike c d h h
  | basic : HeaderAlike c d (basicAuthorization c.clientId c.secret)
      (basicAuthorization d.clientId d.secret)

instance : Std.Refl FieldAlike := ⟨.same⟩

instance {c d : RealmClient} : Std.Refl (HeaderAlike c d) := ⟨.same⟩

/-- Requests that differ only in the fields and the header that carry secrets. Their bodies hold
nothing but fields. -/
structure Alike (c d : RealmClient) (r q : Request) : Prop where
  method : r.method = q.method
  url : r.url = q.url
  headers : List.Forall₂ (HeaderAlike c d) r.headers q.headers
  fields : List.Forall₂ FieldAlike (Form.decode r.body) (Form.decode q.body)
  left_form : Form.encode (Form.decode r.body) = r.body
  right_form : Form.encode (Form.decode q.body) = q.body

end Request

/-- Reports that tell the same and sent what differs only in secrets. -/
structure Report.Alike (c d : RealmClient) {α : Type} (r q : Report α) : Prop where
  result : r.result = q.result
  events : r.events = q.events
  requests : List.Forall₂ (Request.Alike c d) r.requests q.requests

/-! ### No secret makes a header unsendable -/

namespace Request

variable {c d : RealmClient}

/-- Of two alike headers both can be sent or none. -/
theorem HeaderAlike.isHeaderValue_eq {h k : String × String} (hk : HeaderAlike c d h k) :
    isHeaderValue h.2 = isHeaderValue k.2 := by
  cases hk with
  | same => rfl
  | basic => rw [isHeaderValue_basicAuthorization, isHeaderValue_basicAuthorization]

theorem any_unsendable_eq {hs ks : List (String × String)}
    (h : List.Forall₂ (HeaderAlike c d) hs ks) :
    (hs.any fun h => !isHeaderValue h.2) = ks.any fun h => !isHeaderValue h.2 := by
  induction h with
  | nil => rfl
  | cons hk _ ih => rw [List.any_cons, List.any_cons, hk.isHeaderValue_eq, ih]

/-! ### Sending -/

variable {r q : Request}

theorem Alike.unsendable?_eq (h : Alike c d r q) : r.unsendable? = q.unsendable? := by
  rw [unsendable?, unsendable?, any_unsendable_eq h.headers, h.url]

/-- What a request comes to depends on its address and on what the network does. -/
theorem outcome_eq_of_url (h : r.url = q.url) (what : String) (e : Exchange) :
    r.outcome what e = q.outcome what e := by
  have hsending : r.sendingText = q.sendingText := by
    unfold sendingText
    rw [h]
  have hdecoding : r.decodingText = q.decodingText := by
    unfold decodingText
    rw [h]
  have hconnection : r.connectionFailure = q.connectionFailure := by
    unfold connectionFailure
    rw [hsending, h]
  cases e with
  | unreachable => simp only [outcome, hconnection]
  | closed => simp only [outcome, hsending]
  | stalled => simp only [outcome]
  | truncated status => simp only [outcome, hdecoding]
  | stalledBody status => simp only [outcome]
  | answered status bytes => simp only [outcome]

theorem perform_alike (h : Alike c d r q) (what : String) (e : Exchange) :
    (r.perform what e).1 = (q.perform what e).1 ∧
      List.Forall₂ (Alike c d) (r.perform what e).2 (q.perform what e).2 := by
  rw [perform, perform, h.unsendable?_eq, outcome_eq_of_url h.url]
  cases q.unsendable? with
  | some failure => exact ⟨rfl, .nil⟩
  | none =>
    refine ⟨rfl, ?_⟩
    cases arrives e with
    | false => exact .nil
    | true => exact .cons h .nil

theorem addressed_alike (method : Method) (url : Url) {hs ks : List (String × String)}
    {fields others : List (String × String)} (hheaders : List.Forall₂ (HeaderAlike c d) hs ks)
    (hfields : List.Forall₂ FieldAlike fields others) :
    Alike c d (addressed method url hs (Form.encode fields))
      (addressed method url ks (Form.encode others)) := by
  have hdecoded : List.Forall₂ FieldAlike (Form.decode (Form.encode fields))
      (Form.decode (Form.encode others)) := by
    rw [Form.decode_encode, Form.decode_encode]
    exact hfields
  have hwhole (pairs : List (String × String)) :
      Form.encode (Form.decode (Form.encode pairs)) = Form.encode pairs := by
    rw [Form.decode_encode]
  rw [addressed, addressed]
  split
  · exact ⟨rfl, rfl, hheaders, hdecoded, hwhole _, hwhole _⟩
  · exact ⟨rfl, rfl, .cons (.same _) hheaders, hdecoded, hwhole _, hwhole _⟩

end Request

/-! ### What a client sends -/

theorem Credentials.Alike.validate_eq {u v : Credentials} (h : u.Alike v) :
    u.validate = v.validate := by
  rw [validate, validate, h.username, h.left_password, h.right_password]

namespace RealmClient

variable {c d : RealmClient}

theorem Alike.parsedBaseUrl_eq (h : c.Alike d) : c.parsedBaseUrl = d.parsedBaseUrl := by
  rw [parsedBaseUrl, parsedBaseUrl, h.baseUrl]

theorem Alike.validate_eq (h : c.Alike d) : c.validate = d.validate := by
  have hsecret : (c.kind.requiresSecret && Text.isBlankText c.secret)
      = (d.kind.requiresSecret && Text.isBlankText d.secret) := by
    cases hkind : c.kind with
    | isPublic => rw [← h.kind, hkind]; rfl
    | confidential =>
      obtain ⟨hleft, hright⟩ := h.secrets hkind
      rw [← h.kind, hkind, hleft, hright]
  rw [validate, validate, h.parsedBaseUrl_eq, h.realm, h.clientId, hsecret]

theorem Alike.endpointUrl_eq (h : c.Alike d) (e : Endpoint) : c.endpointUrl e = d.endpointUrl e := by
  have hcontext : c.contextSegments = d.contextSegments := by
    rw [contextSegments, contextSegments, h.contextPath]
  have hpath (base : Path) : c.realmPath base = d.realmPath base := by
    rw [realmPath, realmPath, hcontext, h.realm]
  simp only [endpointUrl_eq_map, h.parsedBaseUrl_eq, hpath]

theorem Alike.authenticateUrl_eq (h : c.Alike d) {u v : Credentials} (huv : u.Alike v) :
    c.authenticateUrl u = d.authenticateUrl v := by
  rw [authenticateUrl, authenticateUrl, huv.validate_eq, h.validate_eq, h.endpointUrl_eq]

theorem Alike.tokenUrl_eq (h : c.Alike d) (token : String) (e : Endpoint) :
    c.tokenUrl token e = d.tokenUrl token e := by
  rw [tokenUrl, tokenUrl, h.validate_eq, h.endpointUrl_eq]

theorem Alike.passwordFields_alike (h : c.Alike d) {u v : Credentials} (huv : u.Alike v) :
    List.Forall₂ Request.FieldAlike (c.passwordFields u) (d.passwordFields v) := by
  have hsecret : List.Forall₂ Request.FieldAlike
      (c.secretToSend.map fun s => ("client_secret", s)).toList
      (d.secretToSend.map fun s => ("client_secret", s)).toList := by
    rw [secretToSend, secretToSend, h.kind]
    cases d.kind with
    | isPublic => exact .nil
    | confidential => exact .cons (.hidden (.inr rfl) ..) .nil
  have hscope : u.requestedScope = v.requestedScope := by
    rw [Credentials.requestedScope, Credentials.requestedScope, huv.scope]
  rw [passwordFields, passwordFields, h.clientId, huv.username, hscope]
  refine List.rel_append (List.rel_append (List.rel_append (List.forall₂_refl _) hsecret) ?_)
    (List.forall₂_refl _)
  exact .cons (.same _) (.cons (.hidden (.inl rfl) ..) .nil)

theorem Alike.tokenRequest_alike (h : c.Alike d) {u v : Credentials} (huv : u.Alike v) (url : Url) :
    Request.Alike c d (c.tokenRequest u url) (d.tokenRequest v url) :=
  Request.addressed_alike .post url (List.forall₂_refl _)
    (h.passwordFields_alike huv)

theorem Alike.introspectionRequest_alike (h : c.Alike d) (token : String) (url : Url) :
    Request.Alike c d (c.introspectionRequest token url) (d.introspectionRequest token url) := by
  rw [introspectionRequest, introspectionRequest, secretToSend, secretToSend, ← h.kind]
  cases c.kind with
  | isPublic =>
    rw [h.clientId]
    exact Request.addressed_alike .post url (List.forall₂_refl _) (List.forall₂_refl _)
  | confidential =>
    exact Request.addressed_alike .post url (.cons .basic (List.forall₂_refl _))
      (List.forall₂_refl _)

theorem get_alike (url : Url) (hs : List (String × String)) :
    Request.Alike c d (Request.addressed .get url hs "") (Request.addressed .get url hs "") := by
  have hfields : List.Forall₂ Request.FieldAlike [] [] := .nil
  exact Request.addressed_alike .get url (List.forall₂_refl _) hfields

/-! ### One step -/

theorem authenticate_alike (h : c.Alike d) {u v : Credentials} (huv : u.Alike v) (now : Instant)
    (e : Exchange) : Report.Alike c d (c.authenticate u now e) (d.authenticate v now e) := by
  rw [authenticate, authenticate, h.authenticateUrl_eq huv, h.realm, huv.username]
  cases d.authenticateUrl v with
  | error failure => exact ⟨rfl, rfl, .nil⟩
  | ok url =>
    obtain ⟨hbody, hrequests⟩ :=
      Request.perform_alike (h.tokenRequest_alike huv url) "token response" e
    simp only [hbody]
    exact ⟨rfl, rfl, hrequests⟩

theorem ask_alike {α : Type} (what : String) (address : Except Failure Url)
    {request other : Url → Request} (h : ∀ url, Request.Alike c d (request url) (other url))
    (announced : Bool) (read : String → Except Failure α) (e : Exchange) :
    Report.Alike c d (ask what address request announced read e)
      (ask what address other announced read e) := by
  cases address with
  | error failure => exact ⟨rfl, rfl, .nil⟩
  | ok url =>
    obtain ⟨hbody, hrequests⟩ := Request.perform_alike (h url) what e
    simp only [ask, hbody]
    exact ⟨rfl, rfl, hrequests⟩

theorem map_alike {α β : Type} {r q : Report α} (f : α → β) (h : Report.Alike c d r q) :
    Report.Alike c d (r.map f) (q.map f) :=
  ⟨congrArg (Except.map f) h.result, h.events, h.requests⟩

/-- A step tells the same, whatever the secrets are. -/
theorem answer_alike (h : c.Alike d) {s t : Step} (hst : s.Alike t) :
    Report.Alike c d (c.answer s) (d.answer t) := by
  obtain ⟨hcall, now, e⟩ := hst
  cases hcall with
  | authenticate huv => exact map_alike Answer.grant (authenticate_alike h huv now e)
  | signIn huv =>
    -- signing in turns the result of the attempt into a grant and keeps the rest of its report
    obtain ⟨hresult, hevents, hrequests⟩ := authenticate_alike h huv now e
    refine ⟨?_, hevents, hrequests⟩
    exact congrArg (fun r => Except.ok (Answer.grant (Grant.ofAttempt now r))) hresult
  | introspect token =>
    refine map_alike Answer.introspection ?_
    rw [introspect, introspect, h.tokenUrl_eq]
    exact ask_alike _ _ (h.introspectionRequest_alike token) _ _ e
  | userClaims token =>
    refine map_alike Answer.claims ?_
    rw [userClaims, userClaims, h.tokenUrl_eq]
    exact ask_alike _ _ (fun url => get_alike url _) _ _ e
  | discover =>
    refine map_alike Answer.discovery ?_
    rw [discover, discover, h.validate_eq, h.endpointUrl_eq]
    exact ask_alike _ _ (fun url => get_alike url _) _ _ e

/-! ### Clients that keep no secret -/

theorem Alike.secretToSend_eq (h : c.Alike d) (hkind : c.kind = .isPublic) :
    c.secretToSend = d.secretToSend := by
  rw [secretToSend, secretToSend, ← h.kind, hkind]
  rfl

/-- What it has for a secret makes no difference to what is sent. -/
theorem Alike.answer_eq (h : c.Alike d) (hkind : c.kind = .isPublic) (s : Step) :
    c.answer s = d.answer s := by
  have htoken (user : Credentials) : c.authenticate user = d.authenticate user := by
    have haddress : c.authenticateUrl user = d.authenticateUrl user := by
      rw [authenticateUrl, authenticateUrl, h.validate_eq, h.endpointUrl_eq]
    have hrequest : c.tokenRequest user = d.tokenRequest user := by
      funext url
      rw [tokenRequest, tokenRequest, passwordForm, passwordForm, passwordFields, passwordFields,
        h.secretToSend_eq hkind, h.clientId]
    funext now e
    rw [authenticate, authenticate, haddress, hrequest, h.realm]
  obtain ⟨call, now, e⟩ := s
  cases call with
  | authenticate user => simp only [answer, htoken]
  | signIn user => simp only [answer, signIn, htoken]
  | introspect token =>
    have hrequest : c.introspectionRequest token = d.introspectionRequest token := by
      funext url
      rw [introspectionRequest, introspectionRequest, h.secretToSend_eq hkind, h.clientId]
    simp only [answer, introspect, h.tokenUrl_eq, hrequest]
  | userClaims token => simp only [answer, userClaims, h.tokenUrl_eq]
  | discover => simp only [answer, discover, h.validate_eq, h.endpointUrl_eq]

end RealmClient

/-! ### Sessions -/

/-- The line that tells a person the outcome, of a report of a token. -/
def Report.outcomeLine? (r : Report Answer) : Option String :=
  match r.result with
  | .ok (.grant g) => some g.outcomeLine
  | _ => none

/-- The diagnostic text of the user of a call. -/
def Call.userDebug? : Call → Option String
  | .authenticate user => some user.debug
  | .signIn user => some user.debug
  | _ => none

theorem Step.Alike.userDebug?_eq {s t : Step} (h : s.Alike t) :
    s.call.userDebug? = t.call.userDebug? := by
  have hdebug {u v : Credentials} (huv : u.Alike v) : u.debug = v.debug := by
    rw [Credentials.debug, Credentials.debug, huv.username, huv.scope]
  obtain ⟨hcall, now, e⟩ := h
  cases hcall with
  | authenticate huv => exact congrArg some (hdebug huv)
  | signIn huv => exact congrArg some (hdebug huv)
  | introspect token => rfl
  | userClaims token => rfl
  | discover => rfl

namespace RealmClient

variable {c d : RealmClient}

theorem map_eq_map {α β : Type} {R : α → α → Prop} {f g : α → β} {l m : List α}
    (h : List.Forall₂ R l m) (hfg : ∀ {a b}, R a b → f a = g b) : l.map f = m.map g := by
  induction h with
  | nil => rfl
  | cons hab _ ih => rw [List.map_cons, List.map_cons, hfg hab, ih]

theorem session_forall₂ (h : c.Alike d) {steps others : List Step}
    (hsteps : List.Forall₂ Step.Alike steps others) :
    List.Forall₂ (Report.Alike c d) (c.session steps) (d.session others) := by
  rw [session, session]
  induction hsteps with
  | nil => exact .nil
  | cons hst _ ih => exact .cons (answer_alike h hst) ih

/-- Secrets reach nothing but the wire. Two sessions that differ only in passwords and in the secret
of the client come to reports that are alike; observers hold the same events, which are logged as the
same records; the outcome lines and the diagnostic texts are the same. The secret of a public client
does not even reach the wire. -/
theorem session_alike (h : c.Alike d) {steps others : List Step}
    (hsteps : List.Forall₂ Step.Alike steps others) :
    List.Forall₂ (Report.Alike c d) (c.session steps) (d.session others) ∧
    c.observed [] steps = d.observed [] others ∧
    (c.observed [] steps).map Event.log = (d.observed [] others).map Event.log ∧
    (c.session steps).map Report.outcomeLine? = (d.session others).map Report.outcomeLine? ∧
    c.debug = d.debug ∧
    (steps.map fun s => s.call.userDebug?) = (others.map fun s => s.call.userDebug?) ∧
    (c.kind = .isPublic → c.session steps = d.session steps) := by
  have hreports := session_forall₂ h hsteps
  have hevents : c.observed [] steps = d.observed [] others := by
    have heach : (steps.map fun s => (c.answer s).events) = others.map fun s => (d.answer s).events :=
      map_eq_map hsteps fun hst => (answer_alike h hst).events
    rw [observed_eq, observed_eq, List.flatMap_def, List.flatMap_def, heach]
  have hlines : (c.session steps).map Report.outcomeLine?
      = (d.session others).map Report.outcomeLine? :=
    map_eq_map hreports fun hrq => by rw [Report.outcomeLine?, Report.outcomeLine?, hrq.result]
  have hdebug : c.debug = d.debug := by
    rw [debug, debug, h.baseUrl, h.realm, h.kind, h.clientId, h.contextPath]
  have husers : (steps.map fun s => s.call.userDebug?) = others.map fun s => s.call.userDebug? :=
    map_eq_map hsteps Step.Alike.userDebug?_eq
  refine ⟨hreports, hevents, by rw [hevents], hlines, hdebug, husers, fun hkind => ?_⟩
  exact List.map_congr_left fun s _ => h.answer_eq hkind s

/-- Signing in with another password and asking about a token with another secret. -/
theorem observed_alike_secrets :
    RealmClient.observed ⟨"http://h", "r", .confidential, "c", "s", "auth"⟩ []
        [⟨.signIn ⟨"u", "p", ""⟩, Instant.epoch, .closed⟩,
          ⟨.introspect "t", Instant.epoch, .answered 401 []⟩]
      = RealmClient.observed ⟨"http://h", "r", .confidential, "c", "other", "auth"⟩ []
        [⟨.signIn ⟨"u", "7", ""⟩, Instant.epoch, .closed⟩,
          ⟨.introspect "t", Instant.epoch, .answered 401 []⟩] := by
  have hclients : Alike ⟨"http://h", "r", .confidential, "c", "s", "auth"⟩
      ⟨"http://h", "r", .confidential, "c", "other", "auth"⟩ :=
    ⟨rfl, rfl, rfl, rfl, rfl, fun _ => by decide⟩
  have husers : Credentials.Alike ⟨"u", "p", ""⟩ ⟨"u", "7", ""⟩ :=
    ⟨rfl, rfl, by decide, by decide⟩
  have hsteps : List.Forall₂ Step.Alike
      [⟨.signIn ⟨"u", "p", ""⟩, Instant.epoch, .closed⟩,
        ⟨.introspect "t", Instant.epoch, .answered 401 []⟩]
      [⟨.signIn ⟨"u", "7", ""⟩, Instant.epoch, .closed⟩,
        ⟨.introspect "t", Instant.epoch, .answered 401 []⟩] :=
    .cons (.intro (.signIn husers) _ _) (.cons (.intro (.introspect _) _ _) .nil)
  exact (session_alike hclients hsteps).2.1

end RealmClient

end PasswordGrant
