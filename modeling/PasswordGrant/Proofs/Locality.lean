import PasswordGrant.Proofs.Header
import PasswordGrant.Proofs.Outcome

/-!
# Failures found before anything was sent

A failure tells whether it was found before anything was sent. What the client checks itself is such a
failure, and what comes back from the server is none. In between stands what the client does not
check: a request that cannot be put on the wire is reported as a failure of the network, although it
never got there.

* `Operation.address_error` : what the client checks;
* `Request.outcome_error` : what comes back;
* `Operation.HeldBack` : what the client does not check, and `Operation.unsendable?_eq_none_iff` : nothing
  else keeps a request back;
* `Operation.isLocal_iff_unsent` : a failure tells whether anything was sent, unless a request was
  held back.
-/

namespace PasswordGrant

variable {f : Failure}

/-! ### What the client checks -/

theorem Credentials.validate_error {user : Credentials} (h : user.validate = .error f) :
    f.isLocal = true := by
  rw [validate] at h
  split at h
  · cases h
    rfl
  split at h
  · cases h
    rfl
  · cases h

namespace RealmClient

variable {c : RealmClient}

theorem parsedBaseUrl_error (h : c.parsedBaseUrl = .error f) : f.isLocal = true := by
  unfold parsedBaseUrl at h
  split at h
  · cases h
    rfl
  · cases h
    rfl
  · cases h

theorem validate_error (h : c.validate = .error f) : f.isLocal = true := by
  rw [validate] at h
  cases hbase : c.parsedBaseUrl with
  | error g =>
    rw [hbase] at h
    cases h
    exact parsedBaseUrl_error hbase
  | ok base =>
    rw [hbase] at h
    dsimp only at h
    split at h
    · cases h
      rfl
    split at h
    · cases h
      rfl
    split at h
    · cases h
      rfl
    · cases h

theorem endpointUrl_error {e : Endpoint} (h : c.endpointUrl e = .error f) : f.isLocal = true := by
  rw [endpointUrl_eq_map] at h
  exact parsedBaseUrl_error (map_eq_error.mp h)

theorem requireToken_error {token : String} (h : requireToken token = .error f) :
    f.isLocal = true := by
  rw [requireToken] at h
  split at h
  · cases h
    rfl
  · cases h

theorem checkedUrl_error {e : Endpoint} (h : (do c.validate; c.endpointUrl e) = .error f) :
    f.isLocal = true := by
  rcases bind_eq_error.mp h with hclient | ⟨-, -, hurl⟩
  · exact validate_error hclient
  · exact endpointUrl_error hurl

end RealmClient

/-- An operation that has no address fails before anything is sent. -/
theorem Operation.address_error {c : RealmClient} {op : Operation} (h : op.address c = .error f) :
    f.isLocal = true := by
  -- user or token first, then the client, then the address: one of these checks failed
  cases op with
  | authenticate user =>
    rcases bind_eq_error.mp h with huser | ⟨-, -, hurl⟩
    · exact Credentials.validate_error huser
    · exact RealmClient.checkedUrl_error hurl
  | introspect token =>
    rcases bind_eq_error.mp h with htoken | ⟨-, -, hurl⟩
    · exact RealmClient.requireToken_error htoken
    · exact RealmClient.checkedUrl_error hurl
  | userClaims token =>
    rcases bind_eq_error.mp h with htoken | ⟨-, -, hurl⟩
    · exact RealmClient.requireToken_error htoken
    · exact RealmClient.checkedUrl_error hurl
  | discover => exact RealmClient.checkedUrl_error h

/-! ### What comes back -/

/-- No refusal is a failure found before anything was sent. -/
theorem ErrorResponse.isLocal_classify (status : Nat) (body : String) :
    (classify status body).isLocal = false := by
  have hclassified := classify_classified status body
  by_cases hcredentials : ∃ m, classify status body = .invalidCredentials m
  · obtain ⟨m, hm⟩ := hcredentials
    rw [hm]
    rfl
  · obtain ⟨description, hrejected⟩ := hclassified.rejected hcredentials
    rw [hrejected]
    rfl

namespace Request

variable {r : Request} {what : String}

/-- Nor is anything else that the network gives back. -/
theorem outcome_error {e : Exchange} (h : r.outcome what e = .error f) : f.isLocal = false := by
  rcases unanswered_or_answered e with hlost | ⟨status, bytes, rfl⟩
  · obtain ⟨m, hm⟩ : ∃ m, r.outcome what e = .error (.network m) := outcome_unanswered hlost
    rw [h] at hm
    cases hm
    rfl
  by_cases hstatus : 200 ≤ status ∧ status ≤ 299
  · rw [outcome_successful hstatus] at h
    cases h
  · rw [outcome_refused hstatus] at h
    rw [← Except.error.inj h]
    exact ErrorResponse.isLocal_classify _ _

theorem unsendable?_eq_some (h : r.unsendable? = some f) : ∃ m, f = .network m := by
  rw [unsendable?] at h
  split at h
  · cases h
    exact ⟨_, rfl⟩
  split at h
  · cases h
    exact ⟨_, rfl⟩
  · cases h

/-- A request can be put on the wire if its headers can be carried, and if its address is neither odd
nor too long. -/
theorem unsendable?_eq_none_iff : r.unsendable? = none ↔
    (r.headers.any fun h => !isHeaderValue h.2) = false ∧
      (∀ c ∈ r.url.host.text.toList, isOddInHost c = false) ∧
      Utf8.size r.url.text.toList ≤ lengthLimit := by
  have htarget : isTarget r.url = true ↔ (∀ c ∈ r.url.host.text.toList, isOddInHost c = false) ∧
      Utf8.size r.url.text.toList ≤ lengthLimit := by
    simp only [isTarget, Bool.and_eq_true, Bool.not_eq_true', List.any_eq_false, Bool.not_eq_true,
      decide_eq_true_eq]
  rw [← htarget, unsendable?]
  cases (r.headers.any fun h => !isHeaderValue h.2) with
  | true => simp
  | false => cases isTarget r.url <;> simp

theorem url_addressed (method : Method) (url : Url) (headers : List (String × String))
    (body : String) : (addressed method url headers body).url = url ∨
      (addressed method url headers body).url = url.withoutUserInfo := by
  unfold addressed
  split
  · exact .inl rfl
  · exact .inr rfl

end Request

/-! ### What the client does not check -/

namespace Operation

variable {c : RealmClient} {op : Operation} {url : Url}

/-- What keeps a request back although the client finds nothing wrong with it: a control in the token
that becomes a header, a character in the name of the host that a request line cannot hold, and an
address that is too long for one. -/
inductive HeldBack (c : RealmClient) (url : Url) : Operation → Prop
  | token {token : String} {ch : Char} (hmem : ch ∈ token.toList) (hcontrol : Request.IsControl ch) :
      HeldBack c url (userClaims token)
  | host {op : Operation} {ch : Char} (hmem : ch ∈ url.host.text.toList)
      (hodd : Request.isOddInHost ch = true) : HeldBack c url op
  | length {op : Operation}
      (hlong : Request.lengthLimit < Utf8.size (op.request c url).url.text.toList) :
      HeldBack c url op

theorem url_request (c : RealmClient) (op : Operation) (url : Url) :
    (op.request c url).url = url ∨ (op.request c url).url = url.withoutUserInfo := by
  cases op with
  | authenticate user => exact Request.url_addressed _ _ _ _
  | introspect token =>
    rw [request, RealmClient.introspectionRequest]
    split
    · exact Request.url_addressed _ _ _ _
    · exact Request.url_addressed _ _ _ _
  | userClaims token => exact Request.url_addressed _ _ _ _
  | discover => exact Request.url_addressed _ _ _ _

theorem host_request : (op.request c url).url.host = url.host := by
  rcases url_request c op url with h | h
  · rw [h]
  · rw [h]
    rfl

/-- The only header that can keep a request back is the one that a token becomes. -/
theorem any_unfit_request : ((op.request c url).headers.any fun h => !Request.isHeaderValue h.2) = true
    ↔ ∃ token, op = userClaims token ∧ ∃ ch ∈ token.toList, Request.IsControl ch := by
  have hcontent : Request.isHeaderValue RealmClient.formContent.2 = true := by decide
  have haccept : Request.isHeaderValue RealmClient.acceptJson.2 = true := by decide
  cases op with
  | authenticate user =>
    rw [request, RealmClient.tokenRequest, Request.any_unfit_addressed]
    simp [hcontent, haccept]
  | introspect token =>
    have hbasic := Request.isHeaderValue_basicAuthorization c.clientId
    rw [request, RealmClient.introspectionRequest]
    split
    · rw [Request.any_unfit_addressed]
      simp [hcontent, haccept, hbasic]
    · rw [Request.any_unfit_addressed]
      simp [hcontent, haccept]
  | userClaims token =>
    have hbearer : Request.isHeaderValue ("Bearer " ++ token) = Request.isHeaderValue token :=
      Request.isHeaderValue_append (by decide) token
    rw [request, RealmClient.userRequest, Request.any_unfit_addressed]
    simp [haccept, hbearer, Request.not_isHeaderValue_iff]
  | discover =>
    rw [request, Request.any_unfit_addressed]
    simp [haccept]

/-- Nothing else keeps a request back. -/
theorem unsendable?_eq_none_iff :
    (op.request c url).unsendable? = none ↔ ¬ HeldBack c url op := by
  rw [Request.unsendable?_eq_none_iff, host_request]
  constructor
  · rintro ⟨hheaders, hhost, hlength⟩ hheld
    cases hheld with
    | token hmem hcontrol =>
      rw [any_unfit_request.mpr ⟨_, rfl, _, hmem, hcontrol⟩] at hheaders
      cases hheaders
    | host hmem hodd =>
      rw [hhost _ hmem] at hodd
      cases hodd
    | length hlong => omega
  · intro hfree
    refine ⟨Bool.eq_false_iff.mpr fun hheaders => ?_, fun ch hmem => ?_, ?_⟩
    · obtain ⟨token, rfl, ch, hmem, hcontrol⟩ := any_unfit_request.mp hheaders
      exact hfree (.token hmem hcontrol)
    · exact Bool.eq_false_iff.mpr fun hodd => hfree (.host hmem hodd)
    · exact Nat.le_of_not_lt fun hlong => hfree (.length hlong)

/-! ### What a failure tells -/

theorem answer_of_address_error (h : op.address c = .error f) (now : Instant) (e : Exchange) :
    (c.answer ⟨op.call, now, e⟩).result = .error f ∧ (c.answer ⟨op.call, now, e⟩).requests = [] := by
  rw [result_eq, requests_eq, h]
  exact ⟨rfl, rfl⟩

theorem answer_of_unsendable (haddress : op.address c = .ok url)
    (h : (op.request c url).unsendable? = some f) (now : Instant) (e : Exchange) :
    (c.answer ⟨op.call, now, e⟩).result = .error f ∧ (c.answer ⟨op.call, now, e⟩).requests = [] := by
  have hperform : (op.request c url).perform op.what e = (.error f, []) := by
    rw [Request.perform, h]
  rw [result_eq, requests_eq, haddress]
  dsimp only [body, sent, Except.bind]
  rw [hperform]
  exact ⟨rfl, rfl⟩

theorem requests_of_handed (h : Handed c op url) (now : Instant) {e : Exchange}
    (harrives : Request.arrives e = true) :
    (c.answer ⟨op.call, now, e⟩).requests = [op.request c url] := by
  rw [requests_eq, h.address]
  dsimp only [sent]
  rw [Request.perform, h.sendable]
  dsimp only
  rw [if_pos harrives]

theorem isLocal_of_handed (h : Handed c op url) {now : Instant} {e : Exchange}
    (hfailed : (c.answer ⟨op.call, now, e⟩).result = .error f) : f.isLocal = false := by
  rw [result_of_handed h] at hfailed
  rcases bind_eq_error.mp hfailed with houtcome | ⟨text, -, hread⟩
  · exact Request.outcome_error houtcome
  · obtain ⟨m, rfl⟩ := read_error hread
    rfl

/-- When the server can be reached, a failure was found before anything was sent exactly if nothing
was sent, unless the request was held back; then nothing was sent either, and the failure passes for
one of the network. -/
theorem isLocal_iff_unsent {now : Instant} {e : Exchange}
    (hreachable : Request.arrives e = true)
    (hfailed : (c.answer ⟨op.call, now, e⟩).result = .error f) :
    ((∀ url, op.address c = .ok url → ¬ HeldBack c url op) →
      (f.isLocal = true ↔ (c.answer ⟨op.call, now, e⟩).requests = [])) ∧
    (∀ url, op.address c = .ok url → HeldBack c url op →
      (∃ m, f = .network m) ∧ (c.answer ⟨op.call, now, e⟩).requests = []) := by
  cases haddress : op.address c with
  | error g =>
    -- the client found it, so both sides hold
    obtain ⟨hresult, hrequests⟩ := answer_of_address_error haddress now e
    rw [hresult] at hfailed
    cases hfailed
    exact ⟨fun _ => ⟨fun _ => hrequests, fun _ => address_error haddress⟩, fun url h => by cases h⟩
  | ok url =>
    refine ⟨fun hfree => ?_, fun url' hurl hheld => ?_⟩
    · -- the request arrives, so neither side holds
      have hhanded : Handed c op url := ⟨haddress, unsendable?_eq_none_iff.mpr (hfree url rfl)⟩
      have hrequests := requests_of_handed hhanded now hreachable
      have hlater := isLocal_of_handed hhanded hfailed
      simp [hlater, hrequests]
    · cases hurl
      obtain ⟨g, hg⟩ : ∃ g, (op.request c url).unsendable? = some g :=
        Option.ne_none_iff_exists'.mp fun hnone => unsendable?_eq_none_iff.mp hnone hheld
      obtain ⟨hresult, hrequests⟩ := answer_of_unsendable haddress hg now e
      rw [hresult] at hfailed
      cases hfailed
      exact ⟨Request.unsendable?_eq_some hg, hrequests⟩

/-- A quotation mark in the name of a host passes the checks and not the wire. -/
theorem discover_unsent_of_quote :
    let c := RealmClient.ofPublic "http://a\"b" "r" "web"
    let report := c.answer ⟨discover.call, Instant.epoch, .answered 200 []⟩
    report.result = .error (.network ("builder error for url "
        ++ "(http://a\"b/auth/realms/r/.well-known/openid-configuration)")) ∧
      report.requests = [] := by
  intro c report
  have haddress : discover.address c = .ok ⟨false, "", none, .domain "a\"b", none,
      ⟨["auth", "realms", "r", ".well-known"], "openid-configuration"⟩, none, none⟩ :=
    eq_ok_of_toOption (by decide +kernel)
  have hfailed : report.result = .error (.network ("builder error for url "
      ++ "(http://a\"b/auth/realms/r/.well-known/openid-configuration)")) :=
    (answer_of_unsendable haddress (by decide +kernel) Instant.epoch (.answered 200 [])).1
  have hquote : '"' ∈ (Host.domain "a\"b").text.toList := by decide
  have hheld := (isLocal_iff_unsent rfl hfailed).2 _ haddress (.host hquote (by decide))
  exact ⟨hfailed, hheld.2⟩

/-- A line end in a token passes the checks and not the wire: nothing is sent to a server that would
have answered, and the failure passes for one of the network. -/
theorem userClaims_network_of_lineEnd :
    let c := RealmClient.ofPublic "http://host" "r" "web"
    let report := c.answer ⟨(userClaims "a\nb").call, Instant.epoch, .answered 200 [123, 125]⟩
    ∃ f, report.result = .error f ∧ report.requests = [] ∧ f.isLocal = false ∧
      f = .network "builder error" := by
  intro c report
  have haddress : (userClaims "a\nb").address c = .ok ⟨false, "", none, .domain "host", none,
      ⟨["auth", "realms", "r", "protocol", "openid-connect"], "userinfo"⟩, none, none⟩ :=
    eq_ok_of_toOption (by decide +kernel)
  obtain ⟨hresult, hrequests⟩ := answer_of_unsendable (f := .network "builder error") haddress
    (by decide +kernel) Instant.epoch (.answered 200 [123, 125])
  exact ⟨_, hresult, hrequests, rfl, rfl⟩

end Operation

end PasswordGrant
