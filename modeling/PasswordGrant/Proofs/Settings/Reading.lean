import PasswordGrant.Proofs.Except
import PasswordGrant.Proofs.Settings.Tree
import PasswordGrant.Settings.Layers

/-!
# From layers to settings

What the settings say is read from one tree, at places of at most two names, and that tree is made up
of the layers. So a value that the upper layers hold at a place decides what is read from there.

* `RawScalar.wording`, `Raw.toText_scalar` : the text that a value is read as;
* `Section.read_at?` : a field of a section is read from the value below its name;
* `Settings.ofRaw_ok`, `Settings.serverOfRaw_ok`, `Settings.credentialsOfRaw_ok` : what settings were
  read from;
* `Settings.at?_tree` : what file and environment hold is not hidden by the built-in settings.
-/

namespace PasswordGrant

/-! ### One value -/

/-- The text that a value is written out as. -/
def RawScalar.wording : RawScalar → String
  | .null => ""
  | .flag b => flagText b
  | .integer i => integerText i
  | .float x => x.plainText
  | .text s => s

/-- A value without parts that is read as a text is written out. -/
theorem Raw.toText_scalar {key : String} {source : Option String} {value : RawScalar} {text : String}
    (h : Raw.toText key (.scalar source value) = .ok text) : text = value.wording := by
  cases value <;> cases h <;> rfl

/-- A field of a section that holds a value without parts is read from that value. -/
theorem Section.read_at? {sec : Section} {position : Nat} {name : String} {fallback : Option String}
    (hfield : sec.fields[position]? = some (name, fallback)) {v : Raw} {source : Option String}
    {value : RawScalar} (hvalue : Raw.at? [name] v = some (.scalar source value)) {text : String}
    (h : sec.read v position Raw.toText = .ok text) : text = value.wording := by
  obtain ⟨found, hlookup, hfound⟩ := Option.bind_eq_some_iff.mp hvalue
  cases hfound
  cases v with
  | scalar _ _ => cases hlookup
  | list _ _ => cases hlookup
  | table _ es =>
    rw [read, hfield] at h
    simp only [Option.getD_some, field] at h
    rw [show Raw.lookup? name es = _ from hlookup] at h
    exact Raw.toText_scalar h

namespace Settings

/-! ### Sections -/

/-- The texts of the section about the server are read from their fields. -/
theorem serverOfRaw_ok {v : Raw} {c : RealmClient} (h : serverOfRaw v = .ok c) :
    Section.server.read v 0 Raw.toText = .ok c.baseUrl ∧
    Section.server.read v 1 Raw.toText = .ok c.realm ∧
    Section.server.read v 3 Raw.toText = .ok c.clientId ∧
    Section.server.read v 4 Raw.toText = .ok c.secret ∧
    Section.server.read v 5 Raw.toText = .ok c.contextPath := by
  rw [serverOfRaw] at h
  obtain ⟨baseUrl, hbaseUrl, h⟩ := bind_eq_ok.mp h
  obtain ⟨realm, hrealm, h⟩ := bind_eq_ok.mp h
  obtain ⟨kind, -, h⟩ := bind_eq_ok.mp h
  obtain ⟨clientId, hclientId, h⟩ := bind_eq_ok.mp h
  obtain ⟨secret, hsecret, h⟩ := bind_eq_ok.mp h
  obtain ⟨contextPath, hcontextPath, h⟩ := bind_eq_ok.mp h
  cases h
  exact ⟨hbaseUrl, hrealm, hclientId, hsecret, hcontextPath⟩

/-- The texts of the section about the user are read from their fields. -/
theorem credentialsOfRaw_ok {v : Raw} {c : Credentials}
    (h : credentialsOfRaw v = .ok c) :
    Section.credentials.read v 0 Raw.toText = .ok c.username ∧
    Section.credentials.read v 1 Raw.toText = .ok c.password ∧
    Section.credentials.read v 2 Raw.toText = .ok c.scope := by
  rw [credentialsOfRaw] at h
  obtain ⟨username, husername, h⟩ := bind_eq_ok.mp h
  obtain ⟨password, hpassword, h⟩ := bind_eq_ok.mp h
  obtain ⟨scope, hscope, h⟩ := bind_eq_ok.mp h
  cases h
  exact ⟨husername, hpassword, hscope⟩

/-- Sections and the log filter are read from the entries of the tree. -/
theorem ofRaw_ok {tree : Raw} {s : Settings} (h : ofRaw tree = .ok s) :
    readEntry tree.entries "server" (fun _ v => serverOfRaw v) = .ok s.server ∧
    readEntry tree.entries "credentials" (fun _ v => credentialsOfRaw v)
      = .ok s.credentials ∧
    readEntry tree.entries "log_filter" Raw.toText = .ok s.logFilter := by
  rw [ofRaw] at h
  obtain ⟨server, hserver, h⟩ := bind_eq_ok.mp h
  obtain ⟨credentials, hcredentials, h⟩ := bind_eq_ok.mp h
  obtain ⟨timeoutSeconds, -, h⟩ := bind_eq_ok.mp h
  obtain ⟨logFilter, hlogFilter, h⟩ := bind_eq_ok.mp h
  obtain ⟨waitForEnter, -, h⟩ := bind_eq_ok.mp h
  dsimp only at h
  split at h
  · cases h
  · cases h
    exact ⟨hserver, hcredentials, hlogFilter⟩

theorem readEntry_at? {α : Type} {tree found : Raw} {name : String} {names : List String}
    (hfound : Raw.at? (name :: names) tree = some found)
    {convert : String → Raw → Except SettingsError α} {x : α}
    (h : readEntry tree.entries name convert = .ok x) :
    ∃ v, Raw.at? names v = some found ∧ convert name v = .ok x := by
  obtain ⟨v, hlookup, hfound⟩ := Option.bind_eq_some_iff.mp hfound
  rw [readEntry, hlookup] at h
  exact ⟨v, hfound, h⟩

/-! ### Layers -/

/-- The tree of file and environment is a table. -/
theorem exists_table_overlay (file environment : List (String × Raw)) :
    ∃ es, (Raw.emptyTable.overlay file).overlay environment = .table none es := by
  obtain ⟨lower, hlower⟩ := Raw.overlay_table none [] file
  obtain ⟨upper, hupper⟩ := Raw.overlay_table none lower environment
  exact ⟨upper, by rw [Raw.emptyTable, hlower, hupper]⟩

/-- It is laid over the built-in settings as a whole: its names are plain, whatever the file and the
variables say. -/
theorem tree_eq_merge (file environment : List (String × Raw)) :
    tree file environment = Raw.merge base ((Raw.emptyTable.overlay file).overlay environment) := by
  have hplain : Raw.Plain ((Raw.emptyTable.overlay file).overlay environment) :=
    Raw.Plain.overlay (Raw.Plain.overlay (fun e he => by cases he) file) environment
  obtain ⟨lower, hbase⟩ : ∃ es, base = .table none es := Raw.overlay_table ..
  obtain ⟨upper, htable⟩ := exists_table_overlay file environment
  rw [htable] at hplain
  rw [tree, hbase, htable, Raw.overlay_eq_merge hplain]

theorem tidy_overlay (file environment : List (String × Raw)) :
    Raw.Tidy ((Raw.emptyTable.overlay file).overlay environment) :=
  (Raw.tidy_emptyTable.overlay file).overlay environment

/-- The layers of file and environment, laid over the built-in settings, hold what they hold
themselves. -/
theorem at?_tree {names : List String} {file environment : List (String × Raw)}
    {source : Option String} {value : RawScalar}
    (h : Raw.at? names ((Raw.emptyTable.overlay file).overlay environment)
      = some (.scalar source value)) :
    Raw.at? names (tree file environment) = some (.scalar source value) := by
  rw [tree_eq_merge, Raw.at?_merge (tidy_overlay file environment) h, Raw.merge_scalar]

theorem load_ok {directory : Directory} {file : Option FileChoice}
    {env : Environment.Variables} {s : Settings} (h : load directory file env = .ok s) :
    ∃ entries, ofRaw (tree entries (Environment.entries env)) = .ok s := by
  cases file with
  | none => exact ⟨[], h⟩
  | some f =>
    obtain ⟨entries, -, h⟩ := bind_eq_ok.mp h
    exact ⟨entries, h⟩

end Settings

end PasswordGrant
