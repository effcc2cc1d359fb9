import Mathlib.Tactic.Choose
import PasswordGrant.Proofs.Settings.Overlay
import PasswordGrant.Proofs.Settings.TextSetting

/-!
# Settings one by one

There are twelve settings, each with its place in the tree of all layers. Once the values at these
places are known, nothing else of the tree matters: the settings are what these values are converted
to, one by one, and what is complained about is one of the values or the time limit.

* `Setting` : the twelve, with their variables and their places; `Setting.apart_of_ne` : no two places
  touch; `Setting.at?_base` : what is built in;
* `Setting.Holds` : what settings hold of the value of one of them;
* `Settings.readValues` : the settings from their values; `Settings.ofRaw_eq` : a tree is read in this
  way;
* `Settings.readValues_eq_ok_iff`, `Settings.exists_readValues`, `Settings.isConfig_readValues` : when
  the settings can be read, and what is complained about.
-/

namespace PasswordGrant

/-- The settings. -/
inductive Setting where
  | text (k : TextSetting)
  | clientKind
  | timeoutSeconds
  | waitForEnter
  deriving DecidableEq, Repr

namespace Setting

def variableName : Setting → String
  | text k => k.variableName
  | clientKind => "FERRUM_CHECKER_SERVER__CLIENT_TYPE"
  | timeoutSeconds => "FERRUM_CHECKER_TIMEOUT_SECS"
  | waitForEnter => "FERRUM_CHECKER_WAIT_FOR_ENTER"

/-- The names that lead to a setting in a tree. -/
def names : Setting → List String
  | text k => k.names
  | clientKind => ["server", "client_type"]
  | timeoutSeconds => ["timeout_secs"]
  | waitForEnter => ["wait_for_enter"]

/-- How a setting is called in complaints, and among the built-in settings. -/
def key (k : Setting) : String :=
  match k.names with
  | [name] => name
  | [sec, name] => sec ++ ("." ++ name)
  | _ => ""

def all : List Setting :=
  [text .baseUrl, text .realm, clientKind, text .clientId, text .clientSecret, text .contextPath,
   text .username, text .password, text .scope, timeoutSeconds, text .logFilter, waitForEnter]

theorem mem_all (k : Setting) : k ∈ all := by
  cases k with
  | text k => cases k <;> decide
  | _ => decide

/-! ### What is built in, and what is loaded -/

/-- What the built-in settings say about a setting. -/
def builtInScalar (k : Setting) : RawScalar := (Settings.builtIn.lookup k.key).getD .null

/-- The value of a setting that nothing else gives a value to. -/
def builtIn (k : Setting) : Raw := .scalar none k.builtInScalar

/-- Loaded settings hold what a value of one of them is converted to. -/
def Holds (k : Setting) (v : Raw) (s : Settings) : Prop :=
  match k with
  | text t => Raw.toText (text t).key v = .ok (t.get s)
  | clientKind => Raw.toKind clientKind.key v = .ok s.server.kind
  | timeoutSeconds => Raw.toNatural timeoutSeconds.key v = .ok s.timeoutSeconds
  | waitForEnter => Raw.toFlag waitForEnter.key v = .ok s.waitForEnter

instance (k : Setting) (v : Raw) (s : Settings) : Decidable (k.Holds v s) :=
  match k with
  | text t =>
    decidable_of_iff ((Raw.toText (text t).key v).toOption = some (t.get s)) toOption_eq_some_iff
  | clientKind =>
    decidable_of_iff ((Raw.toKind clientKind.key v).toOption = some s.server.kind) toOption_eq_some_iff
  | timeoutSeconds =>
    decidable_of_iff ((Raw.toNatural timeoutSeconds.key v).toOption = some s.timeoutSeconds)
      toOption_eq_some_iff
  | waitForEnter =>
    decidable_of_iff ((Raw.toFlag waitForEnter.key v).toOption = some s.waitForEnter) toOption_eq_some_iff

/-! ### Places -/

theorem ofKey_key (k : Setting) : KeyPath.ofKey k.key = k.names.map .key := by
  cases k with
  | text k => cases k <;> decide +kernel
  | _ => decide +kernel

theorem place?_variableName (k : Setting) :
    (Environment.place? k.variableName).map KeyPath.ofKey = some (k.names.map .key) := by
  cases k with
  | text k => exact k.place?_variableName
  | _ => decide +kernel

/-- The places of settings do not touch. -/
theorem apart_of_ne {k l : Setting} (h : k ≠ l) : Apart k.names (l.names.map .key) := by
  have hplaces : ∀ k ∈ all, ∀ l ∈ all, k ≠ l → ¬k.names <+: l.names := by decide +kernel
  have hkl := hplaces k k.mem_all l l.mem_all h
  have hlk := hplaces l l.mem_all k k.mem_all h.symm
  exact Raw.apart_of_not_prefix hkl hlk

theorem builtIn_eq : Settings.builtIn = all.map fun k => (k.key, k.builtInScalar) := by decide +kernel

/-- The built-in settings are where they are looked for. -/
theorem at?_base (k : Setting) : Raw.at? k.names Settings.base = some k.builtIn := by
  have hentries : (Settings.builtIn.map fun e => (e.1, Raw.scalar none e.2))
      = all.map fun k => (k.key, k.builtIn) := by
    rw [builtIn_eq, List.map_map]
    rfl
  have hself : ∃ e ∈ all.map fun k => (k.key, k.builtIn),
      KeyPath.ofKey e.1 = k.names.map .key ∧ e.2 = .scalar none k.builtInScalar :=
    ⟨(k.key, k.builtIn), List.mem_map_of_mem k.mem_all, k.ofKey_key, rfl⟩
  rw [Settings.base, hentries]
  refine Raw.at?_overlay_of_mem (fun e he => ?_) hself _
  obtain ⟨l, -, rfl⟩ := List.mem_map.mp he
  by_cases hkl : k = l
  · subst hkl
    exact .inr ⟨k.ofKey_key, rfl⟩
  · rw [l.ofKey_key]
    exact .inl (apart_of_ne hkl)

end Setting

/-! ### From values to settings -/

theorem Section.read_eq {sec : Section} {position : Nat} {name : String} {fallback : Option String}
    (hfield : sec.fields[position]? = some (name, fallback)) {v w : Raw}
    (hvalue : Raw.at? [name] v = some w) {α : Type} (convert : String → Raw → Except SettingsError α) :
    sec.read v position convert = convert (sec.name ++ ("." ++ name)) w := by
  obtain ⟨found, hlookup, hfound⟩ := Option.bind_eq_some_iff.mp hvalue
  cases hfound
  cases v with
  | scalar _ _ => cases hlookup
  | list _ _ => cases hlookup
  | table _ es =>
    have hentry : Raw.lookup? name es = some w := hlookup
    rw [read, hfield]
    simp only [Option.getD_some, field, hentry]
    rfl

theorem Settings.readEntry_eq {es : List (String × Raw)} {name : String} {v : Raw}
    (h : Raw.lookup? name es = some v) {α : Type} (convert : String → Raw → Except SettingsError α) :
    readEntry es name convert = convert name v := by
  rw [readEntry, h]

namespace Settings

/-- The section about server and client, from the values of its settings. -/
def readServer (value : Setting → Raw) : Except SettingsError RealmClient := do
  pure
    { baseUrl := ← Raw.toText (Setting.text .baseUrl).key (value (.text .baseUrl))
      realm := ← Raw.toText (Setting.text .realm).key (value (.text .realm))
      kind := ← Raw.toKind Setting.clientKind.key (value .clientKind)
      clientId := ← Raw.toText (Setting.text .clientId).key (value (.text .clientId))
      secret := ← Raw.toText (Setting.text .clientSecret).key (value (.text .clientSecret))
      contextPath := ← Raw.toText (Setting.text .contextPath).key (value (.text .contextPath)) }

/-- The section about the user, from the values of its settings. -/
def readCredentials (value : Setting → Raw) : Except SettingsError Credentials := do
  pure
    { username := ← Raw.toText (Setting.text .username).key (value (.text .username))
      password := ← Raw.toText (Setting.text .password).key (value (.text .password))
      scope := ← Raw.toText (Setting.text .scope).key (value (.text .scope)) }

/-- The settings, from their values, one by one. -/
def readValues (value : Setting → Raw) : Except SettingsError Settings := do
  pure
    { server := ← readServer value
      credentials := ← readCredentials value
      timeoutSeconds := ← Raw.toNatural Setting.timeoutSeconds.key (value .timeoutSeconds)
      logFilter := ← Raw.toText (Setting.text .logFilter).key (value (.text .logFilter))
      waitForEnter := ← Raw.toFlag Setting.waitForEnter.key (value .waitForEnter) }

def withinTime (s : Settings) : Except SettingsError Settings :=
  if s.timeoutSeconds = 0 then .error (.outOfRange "timeout_secs" "must be greater than zero")
  else .ok s

/-- The settings of a tree are read from the values at their places. -/
theorem ofRaw_eq {tree : Raw} {value : Setting → Raw}
    (h : ∀ k : Setting, Raw.at? k.names tree = some (value k)) :
    ofRaw tree = readValues value >>= withinTime := by
  have hsection : ∀ (k : Setting) {sec name : String}, k.names = [sec, name] →
      ∀ {v : Raw}, Raw.lookup? sec tree.entries = some v → Raw.at? [name] v = some (value k) := by
    intro k sec name hk v hv
    have hvalue := h k
    rw [hk, Raw.at?_cons, hv] at hvalue
    exact hvalue
  have htop : ∀ (k : Setting) {name : String}, k.names = [name] →
      Raw.lookup? name tree.entries = some (value k) := by
    intro k name hk
    have hvalue := h k
    rw [hk] at hvalue
    obtain ⟨v, hv, hvalue⟩ := Option.bind_eq_some_iff.mp hvalue
    cases hvalue
    exact hv
  obtain ⟨server, hserver, -⟩ := Option.bind_eq_some_iff.mp (h (.text .baseUrl))
  obtain ⟨credentials, hcredentials, -⟩ := Option.bind_eq_some_iff.mp (h (.text .username))
  have hserverOf : serverOfRaw server = readServer value := by
    rw [serverOfRaw, Section.read_eq rfl (hsection (.text .baseUrl) rfl hserver),
      Section.read_eq rfl (hsection (.text .realm) rfl hserver),
      Section.read_eq rfl (hsection .clientKind rfl hserver),
      Section.read_eq rfl (hsection (.text .clientId) rfl hserver),
      Section.read_eq rfl (hsection (.text .clientSecret) rfl hserver),
      Section.read_eq rfl (hsection (.text .contextPath) rfl hserver)]
    rfl
  have hcredentialsOf : credentialsOfRaw credentials = readCredentials value := by
    rw [credentialsOfRaw, Section.read_eq rfl (hsection (.text .username) rfl hcredentials),
      Section.read_eq rfl (hsection (.text .password) rfl hcredentials),
      Section.read_eq rfl (hsection (.text .scope) rfl hcredentials)]
    rfl
  rw [ofRaw, readEntry_eq hserver, readEntry_eq hcredentials, readEntry_eq (htop .timeoutSeconds rfl),
    readEntry_eq (htop (.text .logFilter) rfl), readEntry_eq (htop .waitForEnter rfl), hserverOf,
    hcredentialsOf, readValues]
  simp only [bind_assoc, pure_bind]
  rfl

/-- The settings are read exactly if each of them holds what its value is converted to. -/
theorem readValues_eq_ok_iff {value : Setting → Raw} {s : Settings} :
    readValues value = .ok s ↔ ∀ k : Setting, k.Holds (value k) s := by
  constructor
  · intro h
    obtain ⟨server, hserver, h⟩ := bind_eq_ok.mp h
    obtain ⟨credentials, hcredentials, h⟩ := bind_eq_ok.mp h
    obtain ⟨timeoutSeconds, htimeoutSeconds, h⟩ := bind_eq_ok.mp h
    obtain ⟨logFilter, hlogFilter, h⟩ := bind_eq_ok.mp h
    obtain ⟨waitForEnter, hwaitForEnter, h⟩ := bind_eq_ok.mp h
    cases h
    obtain ⟨baseUrl, hbaseUrl, hserver⟩ := bind_eq_ok.mp hserver
    obtain ⟨realm, hrealm, hserver⟩ := bind_eq_ok.mp hserver
    obtain ⟨kind, hkind, hserver⟩ := bind_eq_ok.mp hserver
    obtain ⟨clientId, hclientId, hserver⟩ := bind_eq_ok.mp hserver
    obtain ⟨secret, hsecret, hserver⟩ := bind_eq_ok.mp hserver
    obtain ⟨contextPath, hcontextPath, hserver⟩ := bind_eq_ok.mp hserver
    cases hserver
    obtain ⟨username, husername, hcredentials⟩ := bind_eq_ok.mp hcredentials
    obtain ⟨password, hpassword, hcredentials⟩ := bind_eq_ok.mp hcredentials
    obtain ⟨scope, hscope, hcredentials⟩ := bind_eq_ok.mp hcredentials
    cases hcredentials
    intro k
    cases k with
    | text k => cases k <;> assumption
    | _ => assumption
  · intro h
    have hserver : readServer value = .ok s.server := by
      rw [readServer, h (.text .baseUrl), h (.text .realm), h .clientKind, h (.text .clientId),
        h (.text .clientSecret), h (.text .contextPath)]
      rfl
    have hcredentials : readCredentials value = .ok s.credentials := by
      rw [readCredentials, h (.text .username), h (.text .password), h (.text .scope)]
      rfl
    rw [readValues, hserver, hcredentials, h .timeoutSeconds, h (.text .logFilter), h .waitForEnter]
    rfl

/-- Settings that can be read one by one can be read together. -/
theorem exists_readValues {value : Setting → Raw} (h : ∀ k : Setting, ∃ s, k.Holds (value k) s) :
    ∃ s, readValues value = .ok s := by
  choose part hpart using h
  refine ⟨⟨⟨(part (.text .baseUrl)).server.baseUrl, (part (.text .realm)).server.realm,
      (part .clientKind).server.kind, (part (.text .clientId)).server.clientId,
      (part (.text .clientSecret)).server.secret, (part (.text .contextPath)).server.contextPath⟩,
    ⟨(part (.text .username)).credentials.username, (part (.text .password)).credentials.password,
      (part (.text .scope)).credentials.scope⟩,
    (part .timeoutSeconds).timeoutSeconds, (part (.text .logFilter)).logFilter,
    (part .waitForEnter).waitForEnter⟩, readValues_eq_ok_iff.mpr fun k => ?_⟩
  cases k with
  | text k => cases k <;> exact hpart (.text _)
  | clientKind => exact hpart .clientKind
  | timeoutSeconds => exact hpart .timeoutSeconds
  | waitForEnter => exact hpart .waitForEnter

end Settings

/-! ### Complaints -/

/-- Whether a complaint is about a source or a value, and not about what the settings say. -/
def SettingsError.isConfig : SettingsError → Bool
  | .outOfRange _ _ => false
  | _ => true

namespace Raw

variable {key : String} {v : Raw} {e : SettingsError}

theorem isConfig_toText (h : toText key v = .error e) : e.isConfig = true := by
  rw [toText.eq_def] at h
  split at h <;> cases h
  rfl

theorem isConfig_toNatural (h : toNatural key v = .error e) : e.isConfig = true := by
  rw [toNatural.eq_def] at h
  simp only at h
  repeat' split at h
  all_goals cases h
  all_goals rfl

theorem isConfig_toFlag (h : toFlag key v = .error e) : e.isConfig = true := by
  rw [toFlag.eq_def] at h
  simp only at h
  repeat' split at h
  all_goals cases h
  all_goals rfl

theorem isConfig_toKind (h : toKind key v = .error e) : e.isConfig = true := by
  rw [toKind.eq_def] at h
  simp only at h
  repeat' split at h
  all_goals cases h
  all_goals rfl

end Raw

namespace Settings

theorem isConfig_bind {α β : Type} {x : Except SettingsError α} {f : α → Except SettingsError β}
    (hx : ∀ {e}, x = .error e → e.isConfig = true) (hf : ∀ {a e}, f a = .error e → e.isConfig = true)
    {e : SettingsError} (h : x >>= f = .error e) : e.isConfig = true := by
  rcases bind_eq_error.mp h with h | ⟨a, -, h⟩
  · exact hx h
  · exact hf h

theorem isConfig_pure {α : Type} {a : α} {e : SettingsError}
    (h : (pure a : Except SettingsError α) = .error e) : e.isConfig = true := by
  cases h

theorem isConfig_readServer {value : Setting → Raw} {e : SettingsError}
    (h : readServer value = .error e) : e.isConfig = true := by
  refine isConfig_bind Raw.isConfig_toText ?_ h
  refine isConfig_bind Raw.isConfig_toText ?_
  refine isConfig_bind Raw.isConfig_toKind ?_
  refine isConfig_bind Raw.isConfig_toText ?_
  refine isConfig_bind Raw.isConfig_toText ?_
  exact isConfig_bind Raw.isConfig_toText isConfig_pure

theorem isConfig_readCredentials {value : Setting → Raw} {e : SettingsError}
    (h : readCredentials value = .error e) : e.isConfig = true := by
  refine isConfig_bind Raw.isConfig_toText ?_ h
  refine isConfig_bind Raw.isConfig_toText ?_
  exact isConfig_bind Raw.isConfig_toText isConfig_pure

theorem isConfig_readValues {value : Setting → Raw} {e : SettingsError}
    (h : readValues value = .error e) : e.isConfig = true := by
  refine isConfig_bind isConfig_readServer ?_ h
  refine isConfig_bind isConfig_readCredentials ?_
  refine isConfig_bind Raw.isConfig_toNatural ?_
  refine isConfig_bind Raw.isConfig_toText ?_
  exact isConfig_bind Raw.isConfig_toFlag isConfig_pure

/-- Settings are accepted if they can be read and give a request some time. -/
theorem accepted_iff {value : Setting → Raw} {s : Settings} :
    readValues value >>= withinTime = .ok s ↔
      (∀ k : Setting, k.Holds (value k) s) ∧ s.timeoutSeconds ≠ 0 := by
  have hwithin : ∀ t, withinTime t = .ok s ↔ t = s ∧ s.timeoutSeconds ≠ 0 := by
    intro t
    rw [withinTime]
    split
    case isTrue hzero => exact ⟨nofun, fun ⟨hts, hs⟩ => absurd (hts ▸ hzero) hs⟩
    case isFalse htime => exact ⟨fun h => by cases h; exact ⟨rfl, htime⟩, fun h => by rw [h.1]⟩
  simp only [bind_eq_ok, hwithin, readValues_eq_ok_iff]
  constructor
  · rintro ⟨t, ht, rfl, htime⟩
    exact ⟨ht, htime⟩
  · rintro ⟨hs, htime⟩
    exact ⟨s, hs, rfl, htime⟩

/-- A value is complained about exactly if there is one that cannot be converted. -/
theorem complained_iff {value : Setting → Raw} :
    (∃ e, readValues value >>= withinTime = .error e ∧ e.isConfig = true) ↔
      ∃ k : Setting, ∀ s, ¬k.Holds (value k) s := by
  constructor
  · rintro ⟨e, he, hconfig⟩
    by_contra hall
    have hread : ∀ k : Setting, ∃ s, k.Holds (value k) s := by
      intro k
      by_contra hk
      exact hall ⟨k, fun s hs => hk ⟨s, hs⟩⟩
    obtain ⟨s, hs⟩ := exists_readValues hread
    -- the only complaint that is left is about the time limit
    rcases bind_eq_error.mp he with he | ⟨t, -, he⟩
    · rw [hs] at he
      cases he
    · rw [withinTime] at he
      split at he
      · cases he
        cases hconfig
      · cases he
  · rintro ⟨k, hk⟩
    cases hread : readValues value with
    | ok s => exact absurd (readValues_eq_ok_iff.mp hread k) (hk s)
    | error e => exact ⟨e, rfl, isConfig_readValues hread⟩

end Settings

end PasswordGrant
