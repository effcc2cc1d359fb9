import PasswordGrant.Proofs.Base64
import PasswordGrant.Proofs.Operation
import PasswordGrant.Proofs.PasswordForm
import PasswordGrant.Proofs.Utf8

/-!
# As whom a client shows itself

A client with a secret shows itself in two ways: in the form that asks for a token it names itself and
its secret in two fields, and when it asks about a token it puts both into one header, with a colon
between them. The fields keep the two apart whatever they hold. The header is split at its first colon,
so it keeps them apart only if the name of the client holds none.

* `Request.basicPair?` : the pair that the value of a header shows;
* `Request.basicPair?_basicAuthorization` : where a header is split;
* `Request.basicAuthorization_eq_iff` : which pairs have the same header;
* `RealmClient.introspection_shows_client` : what the two requests of a client show.
-/

namespace PasswordGrant

namespace Request

/-! ### The header -/

/-- The values of the authorization headers of a request, in order. -/
def authorizations (r : Request) : List String :=
  (r.headers.filter fun h => h.1 == "authorization").map Prod.snd

/-- A text split at its first colon. -/
def splitColon? (cs : List Char) : Option (String × String) :=
  match cs.dropWhile (· != ':') with
  | [] => none
  | _ :: rest => some (String.ofList (cs.takeWhile (· != ':')), String.ofList rest)

/-- The user and the password that the value of a header shows: it is read as base64 and as a text,
and split at the first colon. -/
def basicPair? (value : String) : Option (String × String) :=
  if value.toList.take 6 = "Basic ".toList then
    ((Base64.decode? (value.toList.drop 6)).bind Utf8.decode?).bind splitColon?
  else none

/-- The first of two parts with a colon between them ends at the first colon. -/
theorem splitColon?_append (user password : String) :
    ∃ first rest, splitColon? (user ++ ":" ++ password).toList = some (first, rest) ∧
      ':' ∉ first.toList ∧ first ++ ":" ++ rest = user ++ ":" ++ password := by
  generalize hpair : (user ++ ":" ++ password).toList = cs
  have hcolon : ':' ∈ cs := by
    rw [← hpair, String.toList_append, String.toList_append]
    simp
  have hjoined := List.takeWhile_append_dropWhile (p := (· != ':')) (l := cs)
  have hfirst : ∀ c ∈ cs.takeWhile (· != ':'), (c != ':') = true :=
    List.all_eq_true.mp List.all_takeWhile
  rw [splitColon?]
  cases hrest : cs.dropWhile (· != ':') with
  | nil =>
    -- without a colon there would be nothing to split
    rw [hrest, List.append_nil] at hjoined
    have := hfirst ':' (by rw [hjoined]; exact hcolon)
    simp at this
  | cons c rest =>
    have hc : c = ':' := by
      have hhead := List.head?_dropWhile_not (· != ':') cs
      rw [hrest] at hhead
      simpa using hhead
    subst hc
    rw [hrest] at hjoined
    refine ⟨_, _, rfl, fun hmem => ?_, ?_⟩
    · rw [String.toList_ofList] at hmem
      have := hfirst ':' hmem
      simp at this
    · apply String.toList_inj.mp
      simp only [hpair, String.toList_append, String.toList_ofList, List.append_assoc]
      exact hjoined

/-- The parts come back if the first of them holds no colon, and only then. -/
theorem splitColon?_append_eq_iff (user password : String) :
    splitColon? (user ++ ":" ++ password).toList = some (user, password) ↔ ':' ∉ user.toList := by
  constructor
  · intro h
    obtain ⟨first, rest, hsplit, hfree, -⟩ := splitColon?_append user password
    rw [h] at hsplit
    cases hsplit
    exact hfree
  · intro hfree
    have huser : ∀ c ∈ user.toList, (c != ':') = true := by
      intro c hc
      rw [bne_iff_ne]
      rintro rfl
      exact hfree hc
    have hpair : (user ++ ":" ++ password).toList = user.toList ++ ':' :: password.toList := by
      rw [String.toList_append, String.toList_append, List.append_assoc]
      rfl
    rw [splitColon?, hpair, List.dropWhile_append_of_pos huser, List.takeWhile_append_of_pos huser]
    simp

theorem basicPair?_eq (user password : String) :
    basicPair? (basicAuthorization user password).2
      = splitColon? (user ++ ":" ++ password).toList := by
  have hvalue : (basicAuthorization user password).2.toList
      = "Basic ".toList ++ Base64.encode (Utf8.encode (user ++ ":" ++ password).toList) := by
    rw [basicAuthorization, String.toList_append]
    congr 1
    exact String.toList_ofList
  have hlength : "Basic ".toList.length = 6 := rfl
  rw [basicPair?, hvalue, ← hlength, List.take_left, List.drop_left, if_pos rfl,
    Base64.decode?_encode, Option.bind_some, Utf8.decode?_encode, Option.bind_some]

/-- The header for a user and a password shows what stands before and behind the first colon of the
two. -/
theorem basicPair?_basicAuthorization (user password : String) :
    ∃ first rest, basicPair? (basicAuthorization user password).2 = some (first, rest) ∧
      ':' ∉ first.toList ∧ first ++ ":" ++ rest = user ++ ":" ++ password := by
  rw [basicPair?_eq]
  exact splitColon?_append user password

/-- Pairs have the same header if they are the same text with the colon between them. -/
theorem basicAuthorization_eq_iff (user password user' password' : String) :
    (basicAuthorization user password).2 = (basicAuthorization user' password').2
      ↔ user ++ ":" ++ password = user' ++ ":" ++ password' := by
  rw [basicAuthorization, basicAuthorization, String.append_right_inj]
  constructor
  · intro h
    have hbytes := Base64.encode_injective (String.ofList_inj.mp h)
    have htext := congrArg Utf8.decode? hbytes
    rw [Utf8.decode?_encode, Utf8.decode?_encode] at htext
    exact String.toList_inj.mp (Option.some.inj htext)
  · intro h
    rw [h]

end Request

/-! ### The two requests -/

namespace RealmClient

variable {c : RealmClient}

/-- The header that user information in an address becomes. -/
def addressAuthorization (url : Url) : List String :=
  (url.basicUser?.map fun u => (Request.basicAuthorization u.1 (u.2.getD "")).2).toList

theorem authorizations_introspectionRequest (hkind : c.kind = .confidential) (token : String)
    (url : Url) :
    (c.introspectionRequest token url).authorizations
      = addressAuthorization url ++ [(Request.basicAuthorization c.clientId c.secret).2] := by
  have hsecret : c.secretToSend = some c.secret := by
    rw [secretToSend_eq, if_pos hkind]
  rw [introspectionRequest, hsecret]
  dsimp only
  rw [Request.addressed, addressAuthorization]
  cases url.basicUser? with
  | none => rfl
  | some u => rfl

theorem tokenUrl_ok (hvalid : c.validate = .ok ()) {token : String}
    (htoken : Text.isBlankText token = false) (e : Endpoint) :
    ∃ url, c.tokenUrl token e = .ok url := by
  obtain ⟨url, hurl⟩ := endpointUrl_ok hvalid e
  exact ⟨url, tokenUrl_eq_ok_iff.mpr ⟨htoken, hvalid, hurl⟩⟩

theorem lookup_passwordForm (hkind : c.kind = .confidential) (user : Credentials) :
    (Form.decode (c.passwordForm user)).lookup "client_id" = some c.clientId ∧
      (Form.decode (c.passwordForm user)).lookup "client_secret" = some c.secret := by
  have hdecode : Form.decode (c.passwordForm user) = c.passwordFields user := Form.decode_encode _
  rw [hdecode, passwordFields, secretToSend_eq, if_pos hkind]
  exact ⟨rfl, rfl⟩

theorem requests_introspect {token : String} {url : Url}
    (hurl : c.tokenUrl token .introspection = .ok url) (e : Exchange) :
    ∀ r ∈ (c.introspect token e).requests, r = c.introspectionRequest token url := by
  intro r hr
  rw [introspect, Operation.ask_requests] at hr
  rcases Operation.sent_eq (c.tokenUrl token .introspection) (c.introspectionRequest token)
    "introspection response" e with hsent | ⟨url', hurl', hsent⟩
  · rw [hsent] at hr
    cases hr
  · rw [hurl] at hurl'
    cases hurl'
    rw [hsent] at hr
    exact List.mem_singleton.mp hr

theorem requests_authenticate {user : Credentials} {now : Instant} {e : Exchange} :
    ∀ r ∈ (c.authenticate user now e).requests, ∃ url, c.authenticateUrl user = .ok url ∧
      r = c.tokenRequest user url := by
  intro r hr
  rw [Operation.authenticate_requests] at hr
  rcases Operation.sent_eq (c.authenticateUrl user) (c.tokenRequest user) "token response" e with
    hsent | ⟨url, hurl, hsent⟩
  · rw [hsent] at hr
    cases hr
  · rw [hsent] at hr
    exact ⟨url, hurl, List.mem_singleton.mp hr⟩

theorem body_tokenRequest (c : RealmClient) (user : Credentials) (url : Url) :
    (c.tokenRequest user url).body = c.passwordForm user := by
  rw [tokenRequest, Request.addressed]
  cases url.basicUser? <;> rfl

/-- A client with a secret that can be used shows itself by its name and its secret in the form of every
request for a token. Asking about a token, it puts both into the last authorization header, which shows
them as they stand before and behind the first colon of the two: name and secret come back exactly if
the name holds no colon. Clients that differ in the name or the secret have the same header exactly if
the two make up the same text with the colon between them, so never if neither name holds a colon. No
other request than these is sent. -/
theorem introspection_shows_client (hvalid : c.validate = .ok ()) (hkind : c.kind = .confidential)
    {token : String} (htoken : Text.isBlankText token = false) (user : Credentials) :
    (∀ url, (Form.decode (c.tokenRequest user url).body).lookup "client_id" = some c.clientId ∧
      (Form.decode (c.tokenRequest user url).body).lookup "client_secret" = some c.secret) ∧
    (∀ now e, ∀ r ∈ (c.authenticate user now e).requests, ∃ url, c.authenticateUrl user = .ok url ∧
      r = c.tokenRequest user url) ∧
    ∃ url header, c.tokenUrl token .introspection = .ok url ∧
      (∀ e, ∀ r ∈ (c.introspect token e).requests, r = c.introspectionRequest token url) ∧
      (c.introspectionRequest token url).authorizations = addressAuthorization url ++ [header] ∧
      (∃ first rest, Request.basicPair? header = some (first, rest) ∧ ':' ∉ first.toList ∧
        first ++ ":" ++ rest = c.clientId ++ ":" ++ c.secret) ∧
      (Request.basicPair? header = some (c.clientId, c.secret) ↔ ':' ∉ c.clientId.toList) ∧
      ∀ (d : RealmClient) (token' : String) (url' : Url), d.kind = .confidential →
        ((d.introspectionRequest token' url').authorizations.getLast? = some header
          ↔ d.clientId ++ ":" ++ d.secret = c.clientId ++ ":" ++ c.secret) ∧
        (':' ∉ c.clientId.toList → ':' ∉ d.clientId.toList →
          (d.introspectionRequest token' url').authorizations.getLast? = some header →
            d.clientId = c.clientId ∧ d.secret = c.secret) := by
  refine ⟨fun url => ?_, fun now e => requests_authenticate, ?_⟩
  · rw [body_tokenRequest]
    exact lookup_passwordForm hkind user
  obtain ⟨url, hurl⟩ := tokenUrl_ok hvalid htoken .introspection
  refine ⟨url, (Request.basicAuthorization c.clientId c.secret).2, hurl, requests_introspect hurl,
    authorizations_introspectionRequest hkind token url,
    Request.basicPair?_basicAuthorization c.clientId c.secret, ?_, fun d token' url' hd => ?_⟩
  · rw [Request.basicPair?_eq, Request.splitColon?_append_eq_iff]
  · have hlast : (d.introspectionRequest token' url').authorizations.getLast?
        = some (Request.basicAuthorization d.clientId d.secret).2 := by
      rw [authorizations_introspectionRequest hd, List.getLast?_append, List.getLast?_singleton]
      rfl
    have hsame := Request.basicAuthorization_eq_iff d.clientId d.secret c.clientId c.secret
    rw [hlast, Option.some.injEq, hsame]
    refine ⟨Iff.rfl, fun hc hd' htext => ?_⟩
    -- both names end at the first colon of the one text
    have hright := (Request.splitColon?_append_eq_iff d.clientId d.secret).mpr hd'
    rw [htext, (Request.splitColon?_append_eq_iff c.clientId c.secret).mpr hc] at hright
    obtain ⟨hid, hsecret⟩ := Prod.mk.inj (Option.some.inj hright)
    exact ⟨hid.symm, hsecret.symm⟩

/-- A client whose name and secret hold all kinds of characters, but whose name holds no colon. -/
theorem introspection_shows_client_of_colon_in_secret :
    let c := RealmClient.new "http://user@host" "r" .confidential "wéb &=" "a:b"
    ∃ url header, c.tokenUrl "t" .introspection = .ok url ∧
      (Form.decode (c.tokenRequest ⟨"u", "p", ""⟩ url).body).lookup "client_id" = some "wéb &=" ∧
      (c.introspectionRequest "t" url).authorizations.getLast? = some header ∧
      Request.basicPair? header = some ("wéb &=", "a:b") := by
  intro c
  have hvalid : c.validate = .ok () := eq_ok_of_toOption (by decide +kernel)
  obtain ⟨hform, -, url, header, hurl, -, hheader, -, hpair, -⟩ :=
    introspection_shows_client hvalid rfl (show Text.isBlankText "t" = false by decide) ⟨"u", "p", ""⟩
  refine ⟨url, header, hurl, (hform url).1, ?_, hpair.mpr (by decide)⟩
  rw [hheader, List.getLast?_append, List.getLast?_singleton]
  rfl

/-- Two clients that can be used, one with a colon in its name, show themselves by the same header when
they ask about a token, although neither name nor secret is the same. The header shows only one of
them. -/
theorem introspection_confuses_clients :
    let c := RealmClient.new "http://host" "r" .confidential "a:b" "c"
    let d := RealmClient.new "http://host" "r" .confidential "a" "b:c"
    c.validate = .ok () ∧ d.validate = .ok () ∧
      ∃ url header, c.tokenUrl "t" .introspection = .ok url ∧ d.tokenUrl "t" .introspection = .ok url ∧
        (c.introspectionRequest "t" url).authorizations = [header] ∧
        (d.introspectionRequest "t" url).authorizations = [header] ∧
        Request.basicPair? header = some ("a", "b:c") := by
  intro c d
  refine ⟨eq_ok_of_toOption (by decide +kernel), eq_ok_of_toOption (by decide +kernel),
    ⟨false, "", none, .domain "host", none,
      ⟨["auth", "realms", "r", "protocol", "openid-connect", "token"], "introspect"⟩, none, none⟩,
    (Request.basicAuthorization "a" "b:c").2, eq_ok_of_toOption (by decide +kernel),
    eq_ok_of_toOption (by decide +kernel), by decide +kernel, by decide +kernel, by decide +kernel⟩

end RealmClient

end PasswordGrant
