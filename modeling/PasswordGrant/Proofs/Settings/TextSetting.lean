import PasswordGrant.Proofs.Settings.Numeral
import PasswordGrant.Proofs.Settings.Reading

/-!
# Texts from environment variables

Nine of the settings are texts. The text of a variable is first taken for a truth value or a number
where it can be one, and that is then written out as text again. So a text setting does not always
hold what its variable holds: a password such as `007` is taken for a number and loaded as `7`.

* `TextSetting` : the nine, with their variables and their places;
* `TextSetting.Untouched` : no variable touches the place of a setting;
* `TextSetting.Verbatim` : the texts that are loaded as they are;
* `TextSetting.load_variableName` : what is loaded from the variable of a setting, and when it is the
  text of the variable.
-/

namespace PasswordGrant

/-- The settings that are texts. -/
inductive TextSetting where
  | baseUrl
  | realm
  | clientId
  | clientSecret
  | contextPath
  | username
  | password
  | scope
  | logFilter
  deriving DecidableEq, Repr

namespace TextSetting

/-- The variable of a setting. -/
def variableName : TextSetting → String
  | baseUrl => "FERRUM_CHECKER_SERVER__BASE_URL"
  | realm => "FERRUM_CHECKER_SERVER__REALM"
  | clientId => "FERRUM_CHECKER_SERVER__CLIENT_ID"
  | clientSecret => "FERRUM_CHECKER_SERVER__CLIENT_SECRET"
  | contextPath => "FERRUM_CHECKER_SERVER__CONTEXT_PATH"
  | username => "FERRUM_CHECKER_CREDENTIALS__USERNAME"
  | password => "FERRUM_CHECKER_CREDENTIALS__PASSWORD"
  | scope => "FERRUM_CHECKER_CREDENTIALS__SCOPE"
  | logFilter => "FERRUM_CHECKER_LOG_FILTER"

/-- The names that lead to a setting in a tree. -/
def names : TextSetting → List String
  | baseUrl => ["server", "base_url"]
  | realm => ["server", "realm"]
  | clientId => ["server", "client_id"]
  | clientSecret => ["server", "client_secret"]
  | contextPath => ["server", "context_path"]
  | username => ["credentials", "username"]
  | password => ["credentials", "password"]
  | scope => ["credentials", "scope"]
  | logFilter => ["log_filter"]

/-- What is loaded for a setting. -/
def get : TextSetting → Settings → String
  | baseUrl => fun s => s.server.baseUrl
  | realm => fun s => s.server.realm
  | clientId => fun s => s.server.clientId
  | clientSecret => fun s => s.server.secret
  | contextPath => fun s => s.server.contextPath
  | username => fun s => s.credentials.username
  | password => fun s => s.credentials.password
  | scope => fun s => s.credentials.scope
  | logFilter => fun s => s.logFilter

theorem place?_variableName (k : TextSetting) :
    (Environment.place? k.variableName).map KeyPath.ofKey = some (k.names.map .key) := by
  cases k <;> decide +kernel

/-! ### From the tree to the setting -/

/-- A setting whose place holds a value without parts is that value written out. -/
theorem get_of_at? {k : TextSetting} {tree : Raw} {s : Settings} (h : Settings.ofRaw tree = .ok s)
    {source : Option String} {value : RawScalar}
    (hvalue : Raw.at? k.names tree = some (.scalar source value)) : k.get s = value.wording := by
  obtain ⟨hserver, hcredentials, hfilter⟩ := Settings.ofRaw_ok h
  cases k with
  | baseUrl =>
    obtain ⟨v, hv, hread⟩ := Settings.readEntry_at? hvalue hserver
    exact Section.read_at? rfl hv (Settings.serverOfRaw_ok hread).1
  | realm =>
    obtain ⟨v, hv, hread⟩ := Settings.readEntry_at? hvalue hserver
    exact Section.read_at? rfl hv (Settings.serverOfRaw_ok hread).2.1
  | clientId =>
    obtain ⟨v, hv, hread⟩ := Settings.readEntry_at? hvalue hserver
    exact Section.read_at? rfl hv (Settings.serverOfRaw_ok hread).2.2.1
  | clientSecret =>
    obtain ⟨v, hv, hread⟩ := Settings.readEntry_at? hvalue hserver
    exact Section.read_at? rfl hv (Settings.serverOfRaw_ok hread).2.2.2.1
  | contextPath =>
    obtain ⟨v, hv, hread⟩ := Settings.readEntry_at? hvalue hserver
    exact Section.read_at? rfl hv (Settings.serverOfRaw_ok hread).2.2.2.2
  | username =>
    obtain ⟨v, hv, hread⟩ := Settings.readEntry_at? hvalue hcredentials
    exact Section.read_at? rfl hv (Settings.credentialsOfRaw_ok hread).1
  | password =>
    obtain ⟨v, hv, hread⟩ := Settings.readEntry_at? hvalue hcredentials
    exact Section.read_at? rfl hv (Settings.credentialsOfRaw_ok hread).2.1
  | scope =>
    obtain ⟨v, hv, hread⟩ := Settings.readEntry_at? hvalue hcredentials
    exact Section.read_at? rfl hv (Settings.credentialsOfRaw_ok hread).2.2
  | logFilter =>
    obtain ⟨v, hv, hread⟩ := Settings.readEntry_at? hvalue hfilter
    cases hv
    exact Raw.toText_scalar hread

/-! ### From the variable to the tree -/

/-- No variable of an environment touches the place of a setting. -/
def Untouched (k : TextSetting) (env : Environment.Variables) : Prop :=
  ∀ v ∈ env, ∀ place, Environment.place? v.1 = some place → Apart k.names (KeyPath.ofKey place)

theorem apart_of_untouched {k : TextSetting} {env : Environment.Variables} (h : Untouched k env) :
    ∀ e ∈ Environment.entries env, Apart k.names (KeyPath.ofKey e.1) := by
  intro e he
  obtain ⟨v, hv, hentry⟩ := List.mem_filterMap.mp he
  obtain ⟨place, hplace, rfl⟩ := Option.map_eq_some_iff.mp hentry
  exact h v hv place hplace

theorem get_load {k : TextSetting} {directory : Directory} {file : Option Settings.FileChoice}
    {before after : Environment.Variables} {text : String} {s : Settings} (hafter : Untouched k after)
    (h : Settings.load directory file (before ++ (k.variableName, text) :: after) = .ok s) :
    k.get s = (Environment.value text).wording := by
  obtain ⟨entries, h⟩ := Settings.load_ok h
  obtain ⟨place, hplace, hkey⟩ := Option.map_eq_some_iff.mp k.place?_variableName
  have hentries : Environment.entries (before ++ (k.variableName, text) :: after)
      = Environment.entries before ++ (place, .scalar (some Environment.sourceName)
          (Environment.value text)) :: Environment.entries after := by
    rw [Environment.entries, List.filterMap_append, List.filterMap_cons, hplace]
    rfl
  rw [hentries] at h
  exact get_of_at? h (Settings.at?_tree (Raw.at?_overlay_last hkey (apart_of_untouched hafter) _))

/-! ### Texts that are loaded as they are -/

/-- The texts that are loaded as they are: those that are taken for neither a truth value nor a
number, truth values in small letters, whole numbers without a plus sign or a needless zero, and other
numbers in the one text that they are written out as. -/
def Verbatim (text : String) : Prop :=
  match Environment.value text with
  | .null => False
  | .flag _ => text = "true" ∨ text = "false"
  | .integer _ => Numeral.isCanonical text.toList = true
  | .float x => text = x.plainText
  | .text _ => True

/-- What a text is taken for: a truth value by its small letters, else a whole number, else another
number, else itself. -/
theorem value_cases (text : String) :
    (∃ b, Environment.value text = .flag b ∧
      String.ofList (Unicode.lower text.toList) = RawScalar.flagText b) ∨
    (∃ i, Environment.value text = .integer i ∧ Numeral.integer? text = some i) ∨
    (∃ x, Environment.value text = .float x) ∨
    Environment.value text = .text text := by
  unfold Environment.value
  dsimp only
  split
  · exact .inl ⟨true, rfl, ‹_›⟩
  split
  · exact .inl ⟨false, rfl, ‹_›⟩
  split
  · exact .inr (.inl ⟨_, rfl, ‹_›⟩)
  split
  · exact .inr (.inr (.inl ⟨_, rfl⟩))
  · exact .inr (.inr (.inr rfl))

/-- The texts that are loaded as they are are those that are written out as what they were. -/
theorem wording_value_eq_iff (text : String) :
    (Environment.value text).wording = text ↔ Verbatim text := by
  rw [Verbatim]
  rcases value_cases text with ⟨b, hvalue, hlower⟩ | ⟨i, hvalue, hinteger⟩ | ⟨x, hvalue⟩ | hvalue
  · -- letters of either size make a truth value, but only small ones are written out
    rw [hvalue]
    constructor
    · rintro rfl
      cases b with
      | true => exact .inl rfl
      | false => exact .inr rfl
    · rintro (rfl | rfl)
      · exact hlower.symm.trans (by decide)
      · exact hlower.symm.trans (by decide)
  · rw [hvalue]
    exact Numeral.integerText_eq_iff hinteger
  · rw [hvalue]
    exact eq_comm
  · rw [hvalue]
    exact ⟨fun _ => trivial, fun _ => rfl⟩

/-! ### What a variable loads -/

/-- What is loaded for a text setting from its variable is the text that the variable is written out
as, whatever the directory, the file, and the variables before it are, and unless one after it touches
the same place. It is the text of the variable exactly for the verbatim texts, and two texts load the
same setting exactly if they are written out alike. -/
theorem load_variableName (k : TextSetting) {directory : Directory}
    {file : Option Settings.FileChoice} {before after : Environment.Variables} {text : String}
    {s : Settings} (hafter : Untouched k after)
    (h : Settings.load directory file (before ++ (k.variableName, text) :: after) = .ok s) :
    k.get s = (Environment.value text).wording ∧
    (k.get s = text ↔ Verbatim text) ∧
    ∀ (other : String) (t : Settings),
      Settings.load directory file (before ++ (k.variableName, other) :: after) = .ok t →
        (k.get s = k.get t ↔ (Environment.value text).wording = (Environment.value other).wording) := by
  have hget := get_load hafter h
  refine ⟨hget, by rw [hget, wording_value_eq_iff], fun other t ht => ?_⟩
  rw [hget, get_load hafter ht]

/-- A password of digits with a variable after it that is about something else. -/
theorem load_password_digits :
    password.get
        ⟨⟨"http://127.0.0.1:8182", "other", .confidential, "test-service-app-client",
          "fb6Z4RsOadVycQoeQiN57xpu8w8wplYz", "auth"⟩, ⟨"admin", "7", "profile"⟩, 30, "info", true⟩
      = (Environment.value "007").wording := by
  have hafter : Untouched password [(realm.variableName, "other")] := by
    intro v hv place hplace
    rw [List.mem_singleton.mp hv] at hplace
    have hrealm : KeyPath.ofKey place = realm.names.map .key :=
      Option.some.inj ((congrArg (Option.map KeyPath.ofKey) hplace).symm.trans realm.place?_variableName)
    rw [hrealm]
    exact .differ (by decide)
  have hload : Settings.load ⟨fun _ => none, [.toml, .json]⟩ none
      ([] ++ (password.variableName, "007") :: [(realm.variableName, "other")])
      = .ok ⟨⟨"http://127.0.0.1:8182", "other", .confidential, "test-service-app-client",
          "fb6Z4RsOadVycQoeQiN57xpu8w8wplYz", "auth"⟩, ⟨"admin", "7", "profile"⟩, 30, "info", true⟩ :=
    eq_ok_of_toOption (by decide +kernel)
  exact (load_variableName password hafter hload).1

/-- The passwords `007` and `7` are loaded as the same password, which is not the first of them. -/
theorem load_password_conflated :
    ∃ s, Settings.load ⟨fun _ => none, [.toml, .json]⟩ none [("FERRUM_CHECKER_CREDENTIALS__PASSWORD", "007")] = .ok s ∧
      Settings.load ⟨fun _ => none, [.toml, .json]⟩ none [("FERRUM_CHECKER_CREDENTIALS__PASSWORD", "7")] = .ok s ∧
      s.credentials.password ≠ "007" :=
  ⟨⟨⟨"http://127.0.0.1:8182", "myapp", .confidential, "test-service-app-client",
      "fb6Z4RsOadVycQoeQiN57xpu8w8wplYz", "auth"⟩, ⟨"admin", "7", "profile"⟩, 30, "info", true⟩,
    eq_ok_of_toOption (by decide +kernel), eq_ok_of_toOption (by decide +kernel), by decide⟩

end TextSetting

end PasswordGrant
