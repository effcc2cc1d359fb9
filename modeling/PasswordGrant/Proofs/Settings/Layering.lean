import Mathlib.Data.List.Nodup
import PasswordGrant.Proofs.Settings.FileTree
import PasswordGrant.Proofs.Settings.Setting

/-!
# Every setting on its own

Each of the twelve settings has one value: that of its environment variable, or else that of the file,
or else the built-in one. Nothing else in any layer plays a part, and a value that is hidden by a later
layer plays none either. The settings can be loaded exactly if each of these values can be converted,
and the time limit is not zero.

* `Setting.inEnvironment`, `Setting.inFile`, `Setting.resolve` : the value of a setting;
* `Environment.Named`, `Settings.Layered` : environments and files that name settings and nothing else
  that could be taken for one;
* `Settings.at?_tree_eq_resolve` : all layers together hold the value of each setting;
* `Settings.load_layered` : what is loaded.
-/

namespace PasswordGrant

/-- Two names are the same up to the size of letters. -/
def Environment.Alike (a b : String) : Prop := Unicode.lower a.toList = Unicode.lower b.toList

instance (a b : String) : Decidable (Environment.Alike a b) :=
  inferInstanceAs (Decidable (Unicode.lower a.toList = Unicode.lower b.toList))

namespace Setting

/-! ### The value of a setting -/

/-- The value that an environment gives to a setting: that of the variable with its name, in letters of
any size. -/
def inEnvironment (k : Setting) (env : Environment.Variables) : Option Raw :=
  (env.find? fun v => Environment.Alike v.1 k.variableName).map fun v =>
    .scalar (some Environment.sourceName) (Environment.value v.2)

/-- The value that the entries of a file give to a setting. Tables belong to no source once they are
part of the settings. -/
def inFile (k : Setting) (es : List (String × Raw)) : Option Raw :=
  (Raw.at? k.names (.table none es)).map Raw.pooled

/-- The value of a setting: the environment's, or else the file's, or else the built-in one. -/
def resolve (k : Setting) (es : List (String × Raw)) (env : Environment.Variables) : Raw :=
  ((k.inEnvironment env).or (k.inFile es)).getD k.builtIn

end Setting

/-! ### Environments -/

namespace Environment

/-- The variables whose names begin with the mark of the program. -/
def own (env : Variables) : Variables := env.filter fun v => (place? v.1).isSome

/-- The variables of the program name settings, or the file of settings, and none of them is named
twice. -/
structure Named (env : Variables) : Prop where
  known : ∀ v ∈ own env, (∃ k : Setting, Alike v.1 k.variableName) ∨ Alike v.1 Settings.fileVariable
  apart : ((own env).map fun v => Unicode.lower v.1.toList).Nodup

theorem Alike.place?_eq {a b : String} (h : Alike a b) : place? a = place? b := by
  rw [place?, place?, h]

theorem mem_own {env : Variables} {v : String × String} :
    v ∈ own env ↔ v ∈ env ∧ (place? v.1).isSome = true := List.mem_filter

theorem Named.of_perm {env env' : Variables} (h : Named env) (hperm : (own env').Perm (own env)) :
    Named env' where
  known := fun v hv => h.known v (hperm.mem_iff.mp hv)
  apart := (hperm.map _).nodup_iff.mpr h.apart

theorem Named.eq_of_alike {env : Variables} (h : Named env) {v w : String × String} (hv : v ∈ own env)
    (hw : w ∈ own env) (halike : Alike v.1 w.1) : v = w :=
  List.inj_on_of_nodup_map h.apart hv hw halike

end Environment

namespace Setting

open Environment (Alike Named own mem_own)

theorem place?_of_alike {k : Setting} {name : String} (h : Alike name k.variableName) :
    ∃ place, Environment.place? name = some place ∧ KeyPath.ofKey place = k.names.map .key := by
  obtain ⟨place, hplace, hkey⟩ := Option.map_eq_some_iff.mp k.place?_variableName
  exact ⟨place, by rw [h.place?_eq, hplace], hkey⟩

/-- The value of a setting in an environment is that of a variable with its name. -/
theorem inEnvironment_eq_some_iff {env : Environment.Variables} (henv : Named env) {k : Setting}
    {r : Raw} :
    k.inEnvironment env = some r ↔ ∃ v ∈ own env, Alike v.1 k.variableName ∧
      r = .scalar (some Environment.sourceName) (Environment.value v.2) := by
  have hown : ∀ v ∈ env, Alike v.1 k.variableName → v ∈ own env := by
    intro v hv halike
    obtain ⟨place, hplace, -⟩ := place?_of_alike halike
    exact mem_own.mpr ⟨hv, by rw [hplace]; rfl⟩
  constructor
  · intro h
    obtain ⟨v, hfind, rfl⟩ := Option.map_eq_some_iff.mp h
    have halike : Alike v.1 k.variableName := by simpa using List.find?_some hfind
    exact ⟨v, hown v (List.mem_of_find?_eq_some hfind) halike, halike, rfl⟩
  · rintro ⟨v, hv, halike, rfl⟩
    cases hfind : env.find? fun v => Alike v.1 k.variableName with
    | none =>
      have hother := List.find?_eq_none.mp hfind v (mem_own.mp hv).1
      exact absurd (decide_eq_true halike) hother
    | some w =>
      have hw : Alike w.1 k.variableName := by simpa using List.find?_some hfind
      have hvw : v = w := henv.eq_of_alike hv (hown w (List.mem_of_find?_eq_some hfind) hw)
        (halike.trans hw.symm)
      rw [inEnvironment, hfind, hvw]
      rfl

/-- The variables of the program set places of settings with their values, or a place that belongs to
none. -/
theorem entry_cases {env : Environment.Variables} (henv : Named env) {e : String × Raw}
    (he : e ∈ Environment.entries env) :
    (∃ k : Setting, KeyPath.ofKey e.1 = k.names.map .key ∧ k.inEnvironment env = some e.2) ∨
      KeyPath.ofKey e.1 = [.key "config"] := by
  obtain ⟨v, hv, hentry⟩ := List.mem_filterMap.mp he
  obtain ⟨place, hplace, rfl⟩ := Option.map_eq_some_iff.mp hentry
  have hown : v ∈ own env := mem_own.mpr ⟨hv, by rw [hplace]; rfl⟩
  rcases henv.known v hown with ⟨k, halike⟩ | hfile
  · obtain ⟨place', hplace', hkey⟩ := place?_of_alike halike
    rw [hplace] at hplace'
    cases hplace'
    exact .inl ⟨k, hkey, (inEnvironment_eq_some_iff henv).mpr ⟨v, hown, halike, rfl⟩⟩
  · have hconfig : Environment.place? Settings.fileVariable = some "config" := by decide +kernel
    rw [hfile.place?_eq, hconfig] at hplace
    cases hplace
    have hkey : KeyPath.ofKey "config" = [.key "config"] := by decide +kernel
    exact .inr hkey

theorem apart_config (k : Setting) : Apart k.names [.key "config"] := by
  have hplaces : ∀ k ∈ all, ¬k.names <+: ["config"] ∧ ¬["config"] <+: k.names := by decide +kernel
  obtain ⟨h, h'⟩ := hplaces k k.mem_all
  exact Raw.apart_of_not_prefix h h'

theorem at?_overlay_environment {env : Environment.Variables} (henv : Named env) {k : Setting} {r : Raw}
    (h : k.inEnvironment env = some r) (tree : Raw) :
    Raw.at? k.names (tree.overlay (Environment.entries env)) = some r := by
  obtain ⟨v, hv, halike, rfl⟩ := (inEnvironment_eq_some_iff henv).mp h
  obtain ⟨place, hplace, hkey⟩ := place?_of_alike halike
  refine Raw.at?_overlay_of_mem (fun e he => ?_) ⟨(place, _), ?_, hkey, rfl⟩ tree
  · rcases entry_cases henv he with ⟨l, hl, hvalue⟩ | hconfig
    · by_cases hkl : k = l
      · subst hkl
        exact .inr ⟨hl, (Option.some.inj (hvalue.symm.trans h))⟩
      · rw [hl]
        exact .inl (apart_of_ne hkl)
    · rw [hconfig]
      exact .inl k.apart_config
  · exact List.mem_filterMap.mpr ⟨v, (mem_own.mp hv).1, by rw [hplace]; rfl⟩

theorem apart_of_inEnvironment {env : Environment.Variables} (henv : Named env) {k : Setting}
    (h : k.inEnvironment env = none) :
    ∀ e ∈ Environment.entries env, Apart k.names (KeyPath.ofKey e.1) := by
  intro e he
  rcases entry_cases henv he with ⟨l, hl, hvalue⟩ | hconfig
  · rw [hl]
    refine apart_of_ne fun hkl => ?_
    rw [hkl, hvalue] at h
    cases h
  · rw [hconfig]
    exact k.apart_config

end Setting

/-! ### Files -/

/-- The names at the top of a file are plain, and what stands under the names of the two sections is a
table. -/
structure Settings.Layered (es : List (String × Raw)) : Prop where
  plain : ∀ e ∈ es, KeyPath.ofKey e.1 = [.key e.1]
  sections : ∀ e ∈ es, e.1 = "server" ∨ e.1 = "credentials" → e.2.isTable = true

instance (es : List (String × Raw)) : Decidable (Settings.Layered es) :=
  decidable_of_iff ((∀ e ∈ es, KeyPath.ofKey e.1 = [.key e.1]) ∧
      ∀ e ∈ es, e.1 = "server" ∨ e.1 = "credentials" → e.2.isTable = true)
    ⟨fun h => ⟨h.1, h.2⟩, fun h => ⟨h.plain, h.sections⟩⟩

namespace Setting

theorem names_cases (k : Setting) :
    ∃ name, k.names = [name] ∨ k.names = ["server", name] ∨ k.names = ["credentials", name] := by
  cases k with
  | text k =>
    cases k with
    | baseUrl => exact ⟨_, .inr (.inl rfl)⟩
    | realm => exact ⟨_, .inr (.inl rfl)⟩
    | clientId => exact ⟨_, .inr (.inl rfl)⟩
    | clientSecret => exact ⟨_, .inr (.inl rfl)⟩
    | contextPath => exact ⟨_, .inr (.inl rfl)⟩
    | username => exact ⟨_, .inr (.inr rfl)⟩
    | password => exact ⟨_, .inr (.inr rfl)⟩
    | scope => exact ⟨_, .inr (.inr rfl)⟩
    | logFilter => exact ⟨_, .inl rfl⟩
  | clientKind => exact ⟨_, .inr (.inl rfl)⟩
  | timeoutSeconds => exact ⟨_, .inl rfl⟩
  | waitForEnter => exact ⟨_, .inl rfl⟩

theorem passable_of_layered {es : List (String × Raw)} (hes : Settings.Layered es) (k : Setting) :
    Raw.Passable k.names (.table none es) := by
  have hsection : ∀ {name inner : String}, name = "server" ∨ name = "credentials" →
      Raw.Passable [name, inner] (.table none es) := by
    intro name inner hname w hw
    have htable := hes.sections (name, w) (Raw.mem_of_lookup? hw) hname
    exact ⟨.inr htable, fun _ _ => ⟨.inl rfl, trivial⟩⟩
  obtain ⟨name, hnames | hnames | hnames⟩ := k.names_cases
  · rw [hnames]
    exact fun _ _ => ⟨.inl rfl, trivial⟩
  · rw [hnames]
    exact hsection (.inl rfl)
  · rw [hnames]
    exact hsection (.inr rfl)

end Setting

namespace Settings

theorem overlay_file {es : List (String × Raw)} (hes : Layered es) (htidy : Raw.Tidy (.table none es)) :
    Raw.emptyTable.overlay es = (Raw.table none es).pooled := by
  have hnew : ∀ key ∈ es.map Prod.fst, key ∉ ([] : List (String × Raw)).map Prod.fst :=
    fun _ _ => List.not_mem_nil
  have hentries : Raw.mergeEntries [] es = Raw.pooledEntries es := by
    rw [Raw.mergeEntries_eq_append [] es htidy.nodup_keys (fun _ he => htidy.of_mem he) hnew,
      List.nil_append]
  rw [Raw.emptyTable, Raw.overlay_plain hes.plain, hentries, Raw.pooled]

/-- At the place of each setting, all layers together hold its value. -/
theorem at?_tree_eq_resolve {es : List (String × Raw)} (hes : Layered es)
    (htidy : Raw.Tidy (.table none es)) {env : Environment.Variables} (henv : Environment.Named env)
    (k : Setting) :
    Raw.at? k.names (tree es (Environment.entries env)) = some (k.resolve es env) := by
  have hfile := overlay_file hes htidy
  cases henvironment : k.inEnvironment env with
  | some r =>
    obtain ⟨v, -, -, rfl⟩ := (Setting.inEnvironment_eq_some_iff henv).mp henvironment
    rw [Setting.resolve, henvironment, Option.some_or, Option.getD_some]
    exact at?_tree (Setting.at?_overlay_environment henv henvironment _)
  | none =>
    -- the environment leaves the place and the way to it as they are in the file
    have hapart := Setting.apart_of_inEnvironment henv henvironment
    have hlayers : Raw.at? k.names ((Raw.emptyTable.overlay es).overlay (Environment.entries env))
        = k.inFile es := by
      rw [Raw.at?_overlay_apart hapart, hfile, Raw.at?_pooled, Setting.inFile]
    have hway : Raw.Passable k.names
        ((Raw.emptyTable.overlay es).overlay (Environment.entries env)) := by
      rw [hfile]
      exact (Setting.passable_of_layered hes k).pooled.overlay hapart
    have hlayersTidy := tidy_overlay es (Environment.entries env)
    rw [tree_eq_merge, Setting.resolve, henvironment, Option.none_or]
    cases hvalue : k.inFile es with
    | some v =>
      rw [hvalue] at hlayers
      have hscalar : k.builtIn.asTable = Raw.emptyTable := rfl
      rw [Raw.at?_merge hlayersTidy hlayers, k.at?_base, Option.getD_some, Option.getD_some,
        Raw.merge_eq_pooled hscalar v (hlayersTidy.at? hlayers)]
      obtain ⟨w, -, rfl⟩ := Option.map_eq_some_iff.mp hvalue
      rw [Raw.pooled_pooled]
    | none =>
      rw [hvalue] at hlayers
      obtain ⟨upper, htable⟩ := exists_table_overlay es (Environment.entries env)
      rw [htable] at hlayers hway hlayersTidy ⊢
      rw [Raw.at?_merge_of_none hlayersTidy hway hlayers, k.at?_base, Option.getD_none]

/-! ### What is loaded -/

/-- The entries of the file of settings, if one is named. -/
def fileEntries (directory : Directory) (file : Option FileChoice) :
    Except SettingsError (List (String × Raw)) :=
  match file with
  | none => .ok []
  | some f => SettingsFile.entries directory f.path f.required

theorem tidy_fileEntries {directory : Directory} (hformats : ∀ f ∈ directory.formats, f.IsTidy)
    {file : Option FileChoice} {es : List (String × Raw)} (h : fileEntries directory file = .ok es) :
    Raw.Tidy (.table none es) := by
  cases file with
  | none =>
    cases h
    exact Raw.tidy_nil none
  | some f => exact SettingsFile.tidy_entries hformats h

theorem load_eq {directory : Directory} (hformats : ∀ f ∈ directory.formats, f.IsTidy)
    {file : Option FileChoice} {es : List (String × Raw)} (hfile : fileEntries directory file = .ok es)
    (hes : Layered es) {env : Environment.Variables} (henv : Environment.Named env) :
    load directory file env = readValues (fun k => k.resolve es env) >>= withinTime := by
  have hload : load directory file env
      = fileEntries directory file >>= fun es => ofRaw (tree es (Environment.entries env)) := by
    cases file <;> rfl
  have hplaces := at?_tree_eq_resolve hes (tidy_fileEntries hformats hfile) henv
  rw [hload, hfile]
  exact ofRaw_eq hplaces

theorem inEnvironment_of_perm {env env' : Environment.Variables} (henv : Environment.Named env)
    (hperm : (Environment.own env').Perm (Environment.own env)) (k : Setting) :
    k.inEnvironment env' = k.inEnvironment env := by
  ext r
  rw [Setting.inEnvironment_eq_some_iff henv, Setting.inEnvironment_eq_some_iff (henv.of_perm hperm)]
  simp only [hperm.mem_iff]

/-- Whatever the formats of files are, as long as they are read as tables that name no entry twice: each
setting is loaded from its own value, that of the environment, or else that of the file, or else the built-in
one. The settings are loaded exactly if they hold what these values are converted to and
the time limit is not zero; a value is complained about exactly if there is one that cannot be converted.
The order of the variables and the variables of others do not matter, and of a file only the values of
those settings that the environment does not give a value to. -/
theorem load_layered {directory : Directory} (hformats : ∀ f ∈ directory.formats, f.IsTidy)
    {file : Option FileChoice} {es : List (String × Raw)} (hfile : fileEntries directory file = .ok es)
    (hes : Layered es) {env : Environment.Variables} (henv : Environment.Named env) :
    (∀ s, load directory file env = .ok s ↔
      (∀ k : Setting, k.Holds (k.resolve es env) s) ∧ s.timeoutSeconds ≠ 0) ∧
    ((∃ e, load directory file env = .error e ∧ e.isConfig = true) ↔
      ∃ k : Setting, ∀ s, ¬k.Holds (k.resolve es env) s) ∧
    (∀ env', (Environment.own env').Perm (Environment.own env) →
      load directory file env' = load directory file env) ∧
    ∀ directory' file' es', (∀ f ∈ Directory.formats directory', f.IsTidy) →
      fileEntries directory' file' = .ok es' → Layered es' → (∀ k : Setting, k.inEnvironment env = none →
        k.inFile es' = k.inFile es) → load directory' file' env = load directory file env := by
  have hload := load_eq hformats hfile hes henv
  refine ⟨fun s => ?_, ?_, fun env' hperm => ?_,
    fun directory' file' es' hformats' hfile' hes' hsame => ?_⟩
  · rw [hload, accepted_iff]
  · rw [hload, complained_iff]
  · have hresolve : ∀ k : Setting, k.resolve es env' = k.resolve es env := by
      intro k
      rw [Setting.resolve, Setting.resolve, inEnvironment_of_perm henv hperm]
    rw [hload, load_eq hformats hfile hes (henv.of_perm hperm)]
    simp only [hresolve]
  · have hresolve : ∀ k : Setting, k.resolve es' env = k.resolve es env := by
      intro k
      rw [Setting.resolve, Setting.resolve]
      cases henvironment : k.inEnvironment env with
      | some r => rfl
      | none => rw [hsame k henvironment]
    rw [hload, load_eq hformats' hfile' hes' henv]
    simp only [hresolve]

/-- A variable in letters of both sizes hides a list in the file that could not be converted, next to
entries and variables that belong to no setting. -/
theorem load_layered_of_hidden_list :
    let text? (name : String) : Option String :=
      if name = "f.json" then
        some "\x7b\"server\":\x7b\"realm\":[]\x7d,\"log_filter\":\"debug\",\"x\":0\x7d"
      else none
    let directory : Directory := ⟨text?, [.toml, .json]⟩
    let env := [("HOME", "/"), ("Ferrum_Checker_Server__Realm", "other"),
      ("FERRUM_CHECKER_CONFIG", "g.toml")]
    let s : Settings :=
      ⟨⟨"http://127.0.0.1:8182", "other", .confidential, "test-service-app-client",
        "fb6Z4RsOadVycQoeQiN57xpu8w8wplYz", "auth"⟩, ⟨"admin", "1s2d3f4g90xs", "profile"⟩, 30, "debug",
        true⟩
    load directory (some ⟨"f.json", true⟩) env = .ok s := by
  intro text? directory env s
  have hformats : ∀ f ∈ directory.formats, f.IsTidy :=
    List.forall_mem_cons.mpr ⟨FileFormat.isTidy_toml, List.forall_mem_singleton.mpr FileFormat.isTidy_json⟩
  have henv : Environment.Named env := by
    have hown : Environment.own env
        = [("Ferrum_Checker_Server__Realm", "other"), ("FERRUM_CHECKER_CONFIG", "g.toml")] := by
      decide +kernel
    refine ⟨fun v hv => ?_, by decide +kernel⟩
    rw [hown] at hv
    rcases List.mem_cons.mp hv with rfl | hv
    · exact .inl ⟨.text .realm, by decide +kernel⟩
    · rw [List.mem_singleton.mp hv]
      exact .inr (by decide +kernel)
  have hread : ∃ es, fileEntries directory (some ⟨"f.json", true⟩) = .ok es ∧ Layered es ∧
      ∀ k ∈ Setting.all, k.Holds (k.resolve es env) s := by
    have hchecked : (fileEntries directory (some ⟨"f.json", true⟩)).toOption.any (fun es =>
        decide (Layered es ∧ ∀ k ∈ Setting.all, k.Holds (k.resolve es env) s)) = true := by
      decide +kernel
    obtain ⟨es, hes, hholds⟩ := (Option.any_eq_true _ _).mp hchecked
    exact ⟨es, toOption_eq_some_iff.mp hes, of_decide_eq_true hholds⟩
  obtain ⟨es, hfile, hes, hholds⟩ := hread
  exact ((load_layered hformats hfile hes henv).1 s).mpr ⟨fun k => hholds k k.mem_all, by decide⟩

end Settings

end PasswordGrant
