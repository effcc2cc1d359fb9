import PasswordGrant.Proofs.Operation

/-!
# Clients without addresses

A client has no addresses if the text it has for its server is no address, or one that is not of the
web. The client is refused with a failure that says which, and asking for the address of its realm or of
an endpoint fails in the same way. Nothing else can go wrong with them: an address of the web has a path
that can grow, however it was written, and it keeps one while it grows. So a client that is not refused
has all its addresses.

* `Address.scheme`, `Address.scheme_eq_web_iff` : what is read as an address of the web;
* `RealmClient.Refused` : why a client has no addresses, in words;
* `RealmClient.parsedBaseUrl_eq_error_iff` : such clients and no others have no address of a server;
* `RealmClient.endpointUrl_eq_error_iff_refused` : nor of a realm or an endpoint.
-/

namespace PasswordGrant

/-! ### Which addresses are of the web -/

namespace SchemeKind

theorem of_web {scheme : String} (h : scheme = "http" ∨ scheme = "https") :
    ∃ port, SchemeKind.of scheme = .special port := by
  rcases h with rfl | rfl
  · exact ⟨80, rfl⟩
  · exact ⟨443, rfl⟩

end SchemeKind

namespace Address

variable {s name : String} {a : Address}

/-- The scheme of an address. -/
def scheme : Address → String
  | .web url => url.scheme
  | .other scheme => scheme

theorem parseSpecial_eq_other {read : String} {port : Nat} {cs : List Char}
    (h : parseSpecial read port cs = .ok (.other name)) :
    name = read ∧ ¬(read = "http" ∨ read = "https") := by
  unfold parseSpecial at h
  dsimp only at h
  obtain ⟨authority, -, h⟩ := bind_eq_ok.mp h
  split at h
  · cases h
  case isFalse hweb =>
    cases h
    exact ⟨rfl, hweb⟩

/-- An address that is read as one of another kind has another scheme. -/
theorem parse_eq_other (h : parse s = .ok (.other name)) : ¬(name = "http" ∨ name = "https") := by
  rw [parse] at h
  cases hsplit : splitScheme (clean s.toList) with
  | none =>
    rw [hsplit] at h
    cases h
  | some parts =>
    obtain ⟨read, rest⟩ := parts
    rw [hsplit] at h
    dsimp only at h
    intro hweb
    obtain ⟨port, hspecial⟩ := SchemeKind.of_web hweb
    cases hkind : SchemeKind.of read with
    | special port =>
      rw [hkind] at h
      obtain ⟨rfl, hother⟩ := parseSpecial_eq_other h
      exact hother hweb
    | file =>
      rw [hkind] at h
      obtain ⟨_, -, hname⟩ := map_eq_ok.mp h
      cases hname
      rw [hkind] at hspecial
      cases hspecial
    | other =>
      rw [hkind] at h
      obtain ⟨_, -, hname⟩ := map_eq_ok.mp h
      cases hname
      rw [hkind] at hspecial
      cases hspecial

/-- The scheme tells which addresses are of the web. -/
theorem scheme_eq_web_iff (h : parse s = .ok a) :
    (a.scheme = "http" ∨ a.scheme = "https") ↔ ∃ url, a = .web url := by
  cases a with
  | web url =>
    refine ⟨fun _ => ⟨url, rfl⟩, fun _ => ?_⟩
    show url.scheme = "http" ∨ url.scheme = "https"
    rw [Url.scheme]
    cases url.secure with
    | false => exact .inl rfl
    | true => exact .inr rfl
  | other scheme =>
    refine ⟨fun hweb => absurd hweb (parse_eq_other h), fun ⟨url, hurl⟩ => ?_⟩
    cases hurl

end Address

/-! ### Why there are no addresses -/

namespace RealmClient

variable {c : RealmClient} {message : String} {failure : Failure}

/-- Why a client has no addresses, with the message that says so: what is left of its base address
without blanks at the ends is not read as an address, or as one of another scheme than those of the web. -/
inductive Refused (c : RealmClient) : String → Prop where
  | unreadable (e : UrlError) (hparse : Address.parse (Text.trim c.baseUrl) = .error e) :
    Refused c ("invalid base URL '" ++ c.baseUrl ++ "': " ++ e.message)
  | foreign (a : Address) (hparse : Address.parse (Text.trim c.baseUrl) = .ok a)
      (hscheme : ¬(a.scheme = "http" ∨ a.scheme = "https")) :
    Refused c ("unsupported URL scheme '" ++ a.scheme ++ "'")

/-- Reading the base address fails exactly if the client is refused, and says why. -/
theorem parsedBaseUrl_eq_error_iff :
    c.parsedBaseUrl = .error failure ↔ ∃ message, c.Refused message ∧ failure = .configuration message := by
  constructor
  · intro h
    unfold parsedBaseUrl at h
    split at h
    case h_1 e hparse =>
      cases h
      exact ⟨_, .unreadable e hparse, rfl⟩
    case h_2 scheme hparse =>
      cases h
      exact ⟨_, .foreign (.other scheme) hparse (Address.parse_eq_other hparse), rfl⟩
    case h_3 url _ => cases h
  · rintro ⟨message, hrefused, rfl⟩
    cases hrefused with
    | unreadable e hparse => rw [parsedBaseUrl, hparse]
    | foreign a hparse hscheme =>
      cases a with
      | web url => exact absurd ((Address.scheme_eq_web_iff hparse).mpr ⟨url, rfl⟩) hscheme
      | other scheme =>
        rw [parsedBaseUrl, hparse]
        rfl

theorem Refused.validate (h : c.Refused message) : c.validate = .error (.configuration message) := by
  have hbase := parsedBaseUrl_eq_error_iff.mpr ⟨message, h, rfl⟩
  rw [RealmClient.validate, hbase]

theorem Refused.ne_path_failure (h : c.Refused message) : message ≠ "base URL cannot be a base" := by
  intro heq
  have hhead := congrArg (fun text : String => text.toList.head?) heq
  cases h with
  | unreadable e _ => simp [String.toList_append] at hhead
  | foreign a _ _ => simp [String.toList_append] at hhead

theorem realmUrl_eq_error_iff : c.realmUrl = .error failure ↔ c.parsedBaseUrl = .error failure := by
  rw [realmUrl_eq_map, map_eq_error]

theorem endpointUrl_eq_error_iff {e : Endpoint} :
    c.endpointUrl e = .error failure ↔ c.parsedBaseUrl = .error failure := by
  rw [endpointUrl_eq_map, map_eq_error]

theorem exists_address_of_valid (h : c.validate = .ok ()) (op : Operation) :
    ∃ url, c.endpointUrl op.endpoint = .ok url ∧ op.address c = op.checkInput.map fun _ => url := by
  obtain ⟨url, hurl⟩ := endpointUrl_ok h op.endpoint
  refine ⟨url, hurl, ?_⟩
  rw [Operation.address_of_valid h op, hurl]
  cases op.checkInput <;> rfl

/-- Asking for the address of a realm or of an endpoint fails exactly if the client is refused, and
always with the failure that the client is refused with, which is never that a path could not grow. A
client that can be used has the addresses of its realm and of every operation. -/
theorem endpointUrl_eq_error_iff_refused (c : RealmClient) :
    (∀ failure, c.realmUrl = .error failure
      ↔ ∃ message, c.Refused message ∧ failure = .configuration message) ∧
    (∀ e failure, c.endpointUrl e = .error failure
      ↔ ∃ message, c.Refused message ∧ failure = .configuration message) ∧
    (∀ message, c.Refused message → c.validate = .error (.configuration message)) ∧
    (c.realmUrl ≠ .error (.configuration "base URL cannot be a base") ∧
      ∀ e, c.endpointUrl e ≠ .error (.configuration "base URL cannot be a base")) ∧
    (c.validate = .ok () → (∃ url, c.realmUrl = .ok url) ∧
      ∀ op : Operation, ∃ url, c.endpointUrl op.endpoint = .ok url ∧
        op.address c = op.checkInput.map fun _ => url) := by
  have hpath : c.parsedBaseUrl ≠ .error (.configuration "base URL cannot be a base") := by
    intro h
    obtain ⟨message, hrefused, hmessage⟩ := parsedBaseUrl_eq_error_iff.mp h
    cases hmessage
    exact hrefused.ne_path_failure rfl
  refine ⟨fun failure => ?_, fun e failure => ?_, fun message h => h.validate, ⟨?_, fun e => ?_⟩,
    fun h => ⟨?_, exists_address_of_valid h⟩⟩
  · rw [realmUrl_eq_error_iff, parsedBaseUrl_eq_error_iff]
  · rw [endpointUrl_eq_error_iff, parsedBaseUrl_eq_error_iff]
  · rwa [Ne, realmUrl_eq_error_iff]
  · rwa [Ne, endpointUrl_eq_error_iff]
  · obtain ⟨base, hbase⟩ := validate_ok h
    exact ⟨_, by rw [realmUrl_eq_map, hbase]; rfl⟩

/-- A server of files has no addresses. One whose address lacks slashes, or has others, has them. -/
theorem endpointUrl_of_odd_texts :
    let files := ofPublic "ftp://host/" "r" "web"
    let bare := ofPublic "http:host" "r" "web"
    let slanted := ofPublic " HTTPS:\\\\[::1]:443\\x " "r" "web"
    files.validate = .error (.configuration "unsupported URL scheme 'ftp'") ∧
      files.endpointUrl .discovery = .error (.configuration "unsupported URL scheme 'ftp'") ∧
      (∃ url, bare.endpointUrl .discovery = .ok url ∧ Operation.discover.address bare = .ok url) ∧
      ∃ url, slanted.endpointUrl .userinfo = .ok url ∧
        (Operation.userClaims "t").address slanted = .ok url := by
  intro files bare slanted
  have hfiles : files.Refused "unsupported URL scheme 'ftp'" :=
    .foreign (.other "ftp") (eq_ok_of_toOption (by decide +kernel)) (by decide)
  have hbare : bare.validate = .ok () := eq_ok_of_toOption (by decide +kernel)
  have hslanted : slanted.validate = .ok () := eq_ok_of_toOption (by decide +kernel)
  have htoken : (Operation.userClaims "t").checkInput = .ok () := eq_ok_of_toOption (by decide +kernel)
  obtain ⟨-, hendpoint, hvalidate, -, -⟩ := endpointUrl_eq_error_iff_refused files
  obtain ⟨-, hoperation⟩ := (endpointUrl_eq_error_iff_refused bare).2.2.2.2 hbare
  obtain ⟨-, hoperation'⟩ := (endpointUrl_eq_error_iff_refused slanted).2.2.2.2 hslanted
  obtain ⟨url, hurl, haddress⟩ := hoperation' (.userClaims "t")
  rw [htoken] at haddress
  exact ⟨hvalidate _ hfiles, (hendpoint .discovery _).mpr ⟨_, hfiles, rfl⟩, hoperation .discover,
    url, hurl, haddress⟩

end RealmClient

end PasswordGrant
