import PasswordGrant.Proofs.Locality
import PasswordGrant.Proofs.Realm.Frame
import PasswordGrant.Proofs.TokenGrant

/-!
# Asking about a token that was obtained

Whoever obtained a token expects to be able to ask about it with the same client. What a token is, is
decided in three places, and they do not agree: a response may hold any text but the empty one, a
question refuses blank texts, and the question about the user becomes a header, which holds no controls.
Apart from that the client that obtained a token has an address for each question, at a host that a
request line can hold.

* `Question` : the two questions about a token; `Question.Unfit` : the tokens that one cannot be asked of;
* `Url.HostFits` : an address at a host whose name a request line can hold;
* `Question.handed_iff` : the only obstacles that are left;
* `RealmClient.askable_of_obtained` : what comes of a question about a token that was obtained.
-/

namespace PasswordGrant

/-- What can be asked about a token: what it is worth, and who its user is. -/
inductive Question where
  | worth
  | user
  deriving DecidableEq, Repr

namespace Question

def operation : Question → String → Operation
  | worth => .introspect
  | user => .userClaims

def endpoint : Question → Endpoint
  | worth => .introspection
  | user => .userinfo

/-- Tokens that a question cannot be asked of: blank ones, those with a control where the token becomes
a header, and any where the address of the question is too long for a request line. -/
inductive Unfit (c : RealmClient) (url : Url) (token : String) : Question → Prop
  | blank {q : Question} (hblank : Text.isBlankText token = true) : Unfit c url token q
  | control {ch : Char} (hmem : ch ∈ token.toList) (hcontrol : Request.IsControl ch) :
      Unfit c url token user
  | length {q : Question}
      (hlong : Request.lengthLimit < Utf8.size ((q.operation token).request c url).url.text.toList) :
      Unfit c url token q

end Question

/-! ### Hosts that fit -/

/-- An address at a host whose name a request line can hold. -/
def Url.HostFits (url : Url) : Prop := ∀ ch ∈ url.host.text.toList, Request.isOddInHost ch = false

theorem Request.arrives_iff {e : Exchange} : Request.arrives e = true ↔ e ≠ .unreachable := by
  cases e <;> simp [Request.arrives]

theorem Operation.hostFits_of_perform {c : RealmClient} {url : Url} (op : Operation)
    {what text : String} {e : Exchange} (h : ((op.request c url).perform what e).1 = .ok text) :
    url.HostFits := by
  rw [Request.perform] at h
  split at h
  · cases h
  case h_2 hsendable =>
    have hhost := (Request.unsendable?_eq_none_iff.mp hsendable).2.1
    rwa [host_request] at hhost

namespace Question

variable {c : RealmClient} {url : Url} {token : String}

theorem address_eq (q : Question) (token : String) :
    (q.operation token).address c = c.tokenUrl token q.endpoint := by
  cases q <;> rfl

theorem address_ok (q : Question) (hblank : Text.isBlankText token = false)
    (hclient : c.validate = .ok ()) (hurl : c.endpointUrl q.endpoint = .ok url) :
    (q.operation token).address c = .ok url := by
  rw [address_eq, RealmClient.tokenUrl_eq_ok_iff]
  exact ⟨hblank, hclient, hurl⟩

theorem answer_of_blank (q : Question) (h : Text.isBlankText token = true) (now : Instant)
    (e : Exchange) :
    (c.answer ⟨(q.operation token).call, now, e⟩).result
        = .error (.invalidRequest "access token must not be empty") ∧
      (c.answer ⟨(q.operation token).call, now, e⟩).requests = [] := by
  apply Operation.answer_of_address_error
  rw [address_eq]
  exact RealmClient.tokenUrl_of_blank h _

/-- At a host that fits, controls and the length are all that holds a question back. -/
theorem heldBack_iff (q : Question) (h : url.HostFits)
    (hblank : Text.isBlankText token = false) :
    Operation.HeldBack c url (q.operation token) ↔ q.Unfit c url token := by
  constructor
  · intro hheld
    generalize hop : q.operation token = op at hheld
    cases hheld with
    | token hmem hcontrol =>
      cases q with
      | worth => cases hop
      | user =>
        cases hop
        exact .control hmem hcontrol
    | host hmem hodd =>
      rw [h _ hmem] at hodd
      cases hodd
    | length hlong =>
      rw [← hop] at hlong
      exact .length hlong
  · intro hunfit
    cases hunfit with
    | blank htrue =>
      rw [hblank] at htrue
      cases htrue
    | control hmem hcontrol => exact .token hmem hcontrol
    | length hlong => exact .length hlong

/-- A client that can be used can ask a host that fits about any token that is fit. -/
theorem handed_iff (q : Question) (token : String) (hclient : c.validate = .ok ())
    (hurl : c.endpointUrl q.endpoint = .ok url) (h : url.HostFits) :
    Operation.Handed c (q.operation token) url ↔ ¬q.Unfit c url token := by
  cases hblank : Text.isBlankText token with
  | true =>
    apply iff_of_false
    · intro hhanded
      have haddress := hhanded.address
      rw [address_eq, RealmClient.tokenUrl_of_blank hblank] at haddress
      cases haddress
    · intro hfit
      exact hfit (.blank hblank)
  | false =>
    have haddress := q.address_ok hblank hclient hurl
    rw [← q.heldBack_iff h hblank, ← Operation.unsendable?_eq_none_iff]
    exact ⟨fun hhanded => hhanded.sendable, fun hsendable => ⟨haddress, hsendable⟩⟩

end Question

/-! ### Tokens that were obtained -/

namespace RealmClient

variable {c : RealmClient} {user : Credentials} {now : Instant} {e : Exchange} {g : Grant}

theorem hostFits_of_obtained (h : (c.authenticate user now e).result = .ok g) (endpoint : Endpoint) :
    c.validate = .ok () ∧ ∃ url, c.endpointUrl endpoint = .ok url ∧ url.HostFits := by
  rw [Operation.authenticate_result] at h
  obtain ⟨text, hbody, -⟩ := bind_eq_ok.mp h
  obtain ⟨tokenUrl, htoken, hperform⟩ := bind_eq_ok.mp hbody
  obtain ⟨-, hclient, hendpoint⟩ := authenticateUrl_eq_ok_iff.mp htoken
  have hfits : tokenUrl.HostFits := Operation.hostFits_of_perform (.authenticate user) hperform
  obtain ⟨base, hbase⟩ := validate_ok hclient
  -- all endpoints have the host of the server
  rw [endpointUrl_eq hbase] at hendpoint
  cases hendpoint
  exact ⟨hclient, _, endpointUrl_eq hbase endpoint, hfits⟩

/-- Whatever token a client obtained, it can ask about it unless the token is unfit for the question: its
request goes out once, and no failure was found before that. Of an unfit token nothing is sent: a blank
one is refused, and any other passes for a failure of the network. -/
theorem askable_of_obtained (h : (c.authenticate user now e).result = .ok g) (q : Question) :
    ∃ url, c.endpointUrl q.endpoint = .ok url ∧ ∀ later e',
      let op := q.operation g.accessToken
      let report := c.answer ⟨op.call, later, e'⟩
      (¬q.Unfit c url g.accessToken →
        (e' ≠ .unreachable → report.requests = [op.request c url]) ∧
        ∀ f, report.result = .error f → f.isLocal = false) ∧
      (q.Unfit c url g.accessToken → report.requests = [] ∧ ∃ f, report.result = .error f ∧
        if Text.isBlankText g.accessToken then f = .invalidRequest "access token must not be empty"
        else ∃ m, f = .network m) := by
  obtain ⟨hclient, url, hurl, hfits⟩ := hostFits_of_obtained h q.endpoint
  have hhanded := q.handed_iff g.accessToken hclient hurl hfits
  refine ⟨url, hurl, fun later e' => ⟨fun hfit => ?_, fun hunfit => ?_⟩⟩
  · have hfree := hhanded.mpr hfit
    constructor
    · intro he
      exact Operation.requests_of_handed hfree later (Request.arrives_iff.mpr he)
    · intro f hfailed
      exact Operation.isLocal_of_handed hfree hfailed
  · by_cases hblank : Text.isBlankText g.accessToken = true
    · obtain ⟨hresult, hrequests⟩ := q.answer_of_blank hblank later e'
      exact ⟨hrequests, _, hresult, by rw [if_pos hblank]⟩
    · have haddress := q.address_ok (Bool.eq_false_iff.mpr hblank) hclient hurl
      obtain ⟨f, hf⟩ : ∃ f, ((q.operation g.accessToken).request c url).unsendable? = some f :=
        Option.ne_none_iff_exists'.mp fun hnone => hhanded.mp ⟨haddress, hnone⟩ hunfit
      obtain ⟨hresult, hrequests⟩ := Operation.answer_of_unsendable haddress hf later e'
      refine ⟨hrequests, f, hresult, ?_⟩
      rw [if_neg hblank]
      exact Request.unsendable?_eq_some hf

/-- A line end in a token: its worth can be asked about, and its user cannot. -/
theorem askable_of_lineEnd :
    let c := ofPublic "http://host" "r" "web"
    let body := Utf8.encode "\x7b\"access_token\":\"a\\nb\"\x7d".toList
    ∃ g, (c.authenticate ⟨"u", "p", ""⟩ Instant.epoch (.answered 200 body)).result = .ok g ∧
      g.accessToken = "a\nb" ∧
      (c.answer ⟨.introspect g.accessToken, Instant.epoch, .closed⟩).requests.length = 1 ∧
      (c.answer ⟨.userClaims g.accessToken, Instant.epoch, .closed⟩).requests = [] := by
  intro c body
  have hobtained : (c.authenticate ⟨"u", "p", ""⟩ Instant.epoch (.answered 200 body)).result
      = .ok (Grant.new "a\nb" "" Instant.epoch) := eq_ok_of_toOption (by decide +kernel)
  refine ⟨_, hobtained, rfl, ?_, ?_⟩
  · obtain ⟨url, hurl, hasked⟩ := askable_of_obtained hobtained .worth
    have hsendable : ¬Question.worth.Unfit c url "a\nb" := by
      have hvalue : c.endpointUrl Question.worth.endpoint = .ok ⟨false, "", none,
          .domain "host", none, ⟨["auth", "realms", "r", "protocol", "openid-connect", "token"],
          "introspect"⟩, none, none⟩ := eq_ok_of_toOption (by decide +kernel)
      rw [hurl] at hvalue
      cases hvalue
      intro hunfit
      cases hunfit with
      | blank hblank => exact absurd hblank (by decide)
      | length hlong => exact absurd hlong (by decide +kernel)
    have hsent := ((hasked Instant.epoch .closed).1 hsendable).1 (by decide)
    exact congrArg List.length hsent
  · obtain ⟨url, -, hasked⟩ := askable_of_obtained hobtained .user
    have hunfit : Question.user.Unfit c url "a\nb" :=
      .control (by decide : '\n' ∈ "a\nb".toList) (.inl (by decide))
    exact ((hasked Instant.epoch .closed).2 hunfit).1

/-- A server may give out a token that is a blank, and then both questions about it are refused before
anything is sent. -/
theorem unaskable_of_blank :
    let c := ofPublic "http://host" "r" "web"
    let body := Utf8.encode "\x7b\"access_token\":\" \"\x7d".toList
    ∃ g, (c.authenticate ⟨"u", "p", ""⟩ Instant.epoch (.answered 200 body)).result = .ok g ∧
      ∀ q : Question, ∀ later e',
        let report := c.answer ⟨(q.operation g.accessToken).call, later, e'⟩
        report.result = .error (.invalidRequest "access token must not be empty") ∧
          report.requests = [] := by
  intro c body
  have hobtained : (c.authenticate ⟨"u", "p", ""⟩ Instant.epoch (.answered 200 body)).result
      = .ok (Grant.new " " "" Instant.epoch) := eq_ok_of_toOption (by decide +kernel)
  refine ⟨_, hobtained, ?_⟩
  intro q later e'
  exact q.answer_of_blank (by decide) later e'

end RealmClient

end PasswordGrant
