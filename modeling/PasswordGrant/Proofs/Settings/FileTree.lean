import PasswordGrant.Proofs.Json.Reading
import PasswordGrant.Proofs.Settings.Tree
import PasswordGrant.Settings.File

/-!
# What files say only once

A file of settings says what it says in tables that name no entry twice, if that is how its format is
read: then there is one value at each place of a file. Both formats that are given are so. A document keeps
the last value of a name, and the other format has none that is given twice.

* `SettingsFile.tidy_of_shows` : values of documents;
* `Toml.Value.tidy_raw?`, `Toml.Node.tidy_assign?`, `Toml.Node.tidy_enter?`, `Toml.tidy_run?` : values and
  tables of the other format, statement by statement;
* `FileFormat.IsTidy` : a format that is read as tidy tables; `FileFormat.isTidy_json` and
  `FileFormat.isTidy_toml` : these two are;
* `SettingsFile.tidy_entries` : the entries of a file.
-/

namespace PasswordGrant

open Raw (Tidy)

namespace Raw

theorem tidy_nil (source : Option String) : Tidy (.table source []) :=
  .table List.nodup_nil nofun

theorem Tidy.put_table {source : Option String} {es : List (String × Raw)}
    (h : Tidy (.table source es)) {value : Raw} (hvalue : Tidy value) (key : String) :
    Tidy (.table source (Raw.put key value es)) := h.put hvalue key

theorem Tidy.lookup? {source : Option String} {es : List (String × Raw)}
    (h : Tidy (.table source es)) {key : String} {v : Raw} (hv : Raw.lookup? key es = some v) :
    Tidy v :=
  h.of_mem (mem_of_lookup? hv)

theorem Tidy.of_source {source : Option String} {es : List (String × Raw)}
    (h : Tidy (.table source es)) (other : Option String) : Tidy (.table other es) :=
  .table h.nodup_keys fun _ he => h.of_mem he

end Raw

/-! ### Documents -/

namespace SettingsFile

open Json.Written (Shows ShowsMembers)

theorem rawMembers_put (source : Option String) (name : String) (v : Json)
    (ms : List (String × Json)) :
    rawMembers source (Json.put name v ms)
      = Raw.put name (rawOfJson source v) (rawMembers source ms) := by
  induction ms with
  | nil => rfl
  | cons m ms ih =>
    rw [Json.put, rawMembers, Raw.put]
    split
    · rw [rawMembers]
    · rw [rawMembers, ih]

mutual

/-- A value of a document is tidy: of a repeated name only the last value is kept. -/
theorem tidy_of_shows (source : Option String) :
    ∀ {v : Json.Written.Value} {j : Json}, Shows v j → Tidy (rawOfJson source j)
  | _, _, .null => .scalar source .null
  | _, _, .flag b => .scalar source (.flag b)
  | _, _, .number _ => .scalar source _
  | _, _, .text _ => .scalar source _
  | _, _, .array _ => .list source _
  | _, _, .object h => by
    have hempty : Tidy (.table source (rawMembers source [])) := Raw.tidy_nil source
    exact tidy_of_showsMembers source hempty h

theorem tidy_of_showsMembers (source : Option String) :
    ∀ {before after : List (String × Json)} {ms : List Json.Written.Member},
      Tidy (.table source (rawMembers source before)) → ShowsMembers before ms after →
        Tidy (.table source (rawMembers source after))
  | _, _, _, hbefore, .nil _ => hbefore
  | _, _, _, hbefore, .cons _ h hmore => by
    refine tidy_of_showsMembers source ?_ hmore
    rw [rawMembers_put]
    exact hbefore.put_table (tidy_of_shows source h) _

end

theorem tidy_jsonEntries? {source content : String} {es : List (String × Raw)}
    (h : jsonEntries? source content = some es) : Tidy (.table (some source) es) := by
  rw [jsonEntries?] at h
  split at h
  case h_1 members hparse =>
    cases h
    obtain ⟨after, hread⟩ := Json.finish_sound hparse
    obtain ⟨before, v, -, hshows⟩ := Json.readValue_sound hread
    exact tidy_of_shows (some source) hshows
  case h_2 => cases h

end SettingsFile

/-! ### Tables of statements -/

namespace Toml

/-- The entries of a table are tidy in what they stand for. -/
def TidyFields (source : Option String) (es : List (String × Node)) : Prop :=
  Tidy (.table source (rawFields source es))

theorem rawFields_put (source : Option String) (key : String) (node : Node)
    (es : List (String × Node)) :
    rawFields source (Node.put key node es) = Raw.put key (node.raw source) (rawFields source es) := by
  induction es with
  | nil => rfl
  | cons e es ih =>
    rw [Node.put, rawFields, Raw.put]
    split
    · rw [rawFields]
    · rw [rawFields, ih]

theorem lookup?_rawFields (source : Option String) (key : String) (es : List (String × Node)) :
    Raw.lookup? key (rawFields source es) = (Node.lookup? key es).map (Node.raw source) := by
  induction es with
  | nil => rfl
  | cons e es ih =>
    rw [rawFields, Raw.lookup?, Node.lookup?, ih]
    split <;> rfl

section

variable {source : Option String} {es es' : List (String × Node)}

theorem TidyFields.put (h : TidyFields source es) {node : Node} (hnode : Tidy (node.raw source))
    (key : String) : TidyFields source (Node.put key node es) := by
  rw [TidyFields, rawFields_put]
  exact h.put_table hnode key

theorem TidyFields.lookup? (h : TidyFields source es) {key : String} {node : Node}
    (hnode : Node.lookup? key es = some node) : Tidy (node.raw source) := by
  have hraw : Raw.lookup? key (rawFields source es) = some (node.raw source) := by
    rw [lookup?_rawFields, hnode, Option.map_some]
  exact Raw.Tidy.lookup? h hraw

theorem Node.tidy_leaf {value : Raw} (h : Tidy value) : Tidy ((Node.leaf value).raw source) := by
  rw [raw]
  exact h

theorem Node.tidy_table (h : TidyFields source es) (origin : Origin) :
    Tidy ((Node.table origin es).raw source) := by
  rw [raw]
  exact h

theorem Node.tidy_array (tables : List (List (String × Node))) :
    Tidy ((Node.array tables).raw source) := by
  rw [raw]
  exact .list source _

theorem Node.tidy_raw_table {origin : Origin} (h : Tidy ((Node.table origin es).raw source)) :
    TidyFields source es := by
  rw [raw] at h
  exact h

theorem tidyFields_nil (source : Option String) : TidyFields source [] := Raw.tidy_nil source

/-- An assignment keeps tables tidy: it names nothing that is there. -/
theorem Node.tidy_assign? {value : Raw} (hvalue : Tidy value) {names : List String}
    (hes : TidyFields source es) (h : Node.assign? value names es = some es') :
    TidyFields source es' := by
  fun_induction Node.assign? value names es generalizing es' with
  | case1 => cases h
  | case2 => cases h
  | case3 name es hfree =>
    cases h
    exact hes.put (tidy_leaf hvalue) name
  | case4 name names es hnames hlookup ih =>
    obtain ⟨inner, hinner, rfl⟩ := Option.map_eq_some_iff.mp h
    exact hes.put (tidy_table (ih (tidyFields_nil source) hinner) _) name
  | case5 => cases h
  | case6 name names es hnames origin inner hlookup hopen ih =>
    obtain ⟨inner', hinner, rfl⟩ := Option.map_eq_some_iff.mp h
    exact hes.put (tidy_table (ih (tidy_raw_table (hes.lookup? hopen)) hinner) _) name
  | case7 => cases h

/-- A header keeps tables tidy if the table that it names is begun or changed to a tidy one. -/
theorem Node.tidy_enter? {final : Option Node → Option Node}
    (hfinal : ∀ old new, (∀ node, old = some node → Tidy (node.raw source)) → final old = some new →
      Tidy (new.raw source)) {names : List String}
    (hes : TidyFields source es) (h : Node.enter? final names es = some es') :
    TidyFields source es' := by
  fun_induction Node.enter? final names es generalizing es' with
  | case1 => cases h
  | case2 name es =>
    obtain ⟨node, hnode, rfl⟩ := Option.map_eq_some_iff.mp h
    exact hes.put (hfinal _ _ (fun _ hold => hes.lookup? hold) hnode) name
  | case3 name names es hnames hlookup ih =>
    obtain ⟨inner, hinner, rfl⟩ := Option.map_eq_some_iff.mp h
    exact hes.put (tidy_table (ih (tidyFields_nil source) hinner) _) name
  | case4 name names es hnames origin inner hlookup ih =>
    obtain ⟨inner', hinner, rfl⟩ := Option.map_eq_some_iff.mp h
    exact hes.put (tidy_table (ih (tidy_raw_table (hes.lookup? hlookup)) hinner) _) name
  | case5 => cases h
  | case6 name names es hnames tables hlookup inner hlast ih =>
    obtain ⟨inner', -, rfl⟩ := Option.map_eq_some_iff.mp h
    exact hes.put (tidy_array _) name
  | case7 => cases h

theorem Node.tidy_beginTable {old : Option Node} {new : Node}
    (hold : ∀ node, old = some node → Tidy (node.raw source)) (h : beginTable old = some new) :
    Tidy (new.raw source) := by
  rw [beginTable.eq_def] at h
  split at h
  · cases h
    exact tidy_table (tidyFields_nil source) _
  · cases h
    exact tidy_table (tidy_raw_table (hold _ rfl)) _
  · cases h

theorem Node.tidy_beginElement {old : Option Node} {new : Node} (h : beginElement old = some new) :
    Tidy (new.raw source) := by
  rw [beginElement.eq_def] at h
  split at h
  · cases h
    exact tidy_array _
  · cases h
    exact tidy_array _
  · cases h

theorem Node.tidy_change {f : List (String × Node) → Option (List (String × Node))}
    (hf : ∀ es es', TidyFields source es → f es = some es' → TidyFields source es')
    {old : Option Node} {new : Node} (hold : ∀ node, old = some node → Tidy (node.raw source))
    (h : change f old = some new) : Tidy (new.raw source) := by
  rw [change.eq_def] at h
  split at h
  · obtain ⟨inner, hinner, rfl⟩ := Option.map_eq_some_iff.mp h
    exact tidy_table (hf _ _ (tidy_raw_table (hold _ rfl)) hinner) _
  · obtain ⟨inner, -, h⟩ := Option.bind_eq_some_iff.mp h
    obtain ⟨inner', -, rfl⟩ := Option.map_eq_some_iff.mp h
    exact tidy_array _
  · cases h

end

/-! ### Values -/

theorem tidy_place? {value : Raw} (hvalue : Tidy value) {names : List String}
    {source : Option String} {es es' : List (String × Raw)} (hes : Tidy (.table source es))
    (h : place? value names es = some es') : Tidy (.table source es') := by
  fun_induction place? value names es generalizing source es' with
  | case1 => cases h
  | case2 => cases h
  | case3 name es hfree =>
    cases h
    exact hes.put_table hvalue name
  | case4 name names es hnames hlookup ih =>
    obtain ⟨inner, hinner, rfl⟩ := Option.map_eq_some_iff.mp h
    exact hes.put_table (ih (Raw.tidy_nil none) hinner) name
  | case5 name names es hnames inner hlookup ih =>
    obtain ⟨inner', hinner, rfl⟩ := Option.map_eq_some_iff.mp h
    exact hes.put_table (ih (hes.lookup? hlookup) hinner) name
  | case6 => cases h

/-- Entries with tidy values make up a tidy table. -/
theorem tidy_closedTable? {source : Option String} {es : List (List String × Raw)}
    (hes : ∀ e ∈ es, Tidy e.2) {v : Raw} (h : closedTable? source es = some v) : Tidy v := by
  have hfold : ∀ {acc acc' : List (String × Raw)}, Tidy (.table source acc) →
      es.foldlM (fun acc e => place? e.2 e.1 acc) acc = some acc' → Tidy (.table source acc') := by
    clear h
    induction es with
    | nil =>
      intro acc acc' hacc h
      cases h
      exact hacc
    | cons e es ih =>
      intro acc acc' hacc h
      rw [List.forall_mem_cons] at hes
      rw [List.foldlM_cons] at h
      obtain ⟨acc₁, hplace, h⟩ := Option.bind_eq_some_iff.mp h
      exact ih hes.2 (tidy_place? hes.1 hacc hplace) h
  obtain ⟨es', hes', rfl⟩ := Option.map_eq_some_iff.mp h
  exact hfold (Raw.tidy_nil source) hes'

mutual

/-- A value is tidy: a table in braces has no entry that is given twice. -/
theorem Value.tidy_raw? (source : Option String) :
    ∀ (v : Value) {r : Raw}, v.raw? source = some r → Tidy r
  | .text s, _, h => by
    cases h
    exact .scalar source _
  | .integer i, _, h => by
    cases h
    exact .scalar source _
  | .float x, _, h => by
    cases h
    exact .scalar source _
  | .flag b, _, h => by
    cases h
    exact .scalar source _
  | .moment s, _, h => by
    cases h
    exact .scalar source _
  | .list vs, _, h => by
    obtain ⟨items, -, rfl⟩ := Option.map_eq_some_iff.mp h
    exact .list source items
  | .table es, _, h => by
    obtain ⟨rs, hrs, h⟩ := Option.bind_eq_some_iff.mp h
    exact tidy_closedTable? (tidy_rawEntries? source es hrs) h

theorem tidy_rawEntries? (source : Option String) :
    ∀ (es : List (List String × Value)) {rs : List (List String × Raw)},
      rawEntries? source es = some rs → ∀ e ∈ rs, Tidy e.2
  | [], _, h => by
    cases h
    nofun
  | (key, v) :: es, _, h => by
    obtain ⟨r, hr, h⟩ := Option.bind_eq_some_iff.mp h
    obtain ⟨rs, hrs, h⟩ := Option.bind_eq_some_iff.mp h
    cases h
    rw [List.forall_mem_cons]
    exact ⟨v.tidy_raw? source hr, tidy_rawEntries? source es hrs⟩

end

/-! ### Whole files -/

/-- Statement by statement, the tables of a file stay tidy. -/
theorem tidy_run? {source : Option String} {statements : List Statement} {current : List String}
    {es es' : List (String × Node)} (hes : TidyFields source es)
    (h : run? source statements current es = some es') : TidyFields source es' := by
  induction statements generalizing current es with
  | nil =>
    cases h
    exact hes
  | cons statement more ih =>
    cases statement with
    | header key =>
      obtain ⟨es₁, henter, h⟩ := Option.bind_eq_some_iff.mp h
      exact ih (Node.tidy_enter? (fun _ _ => Node.tidy_beginTable) hes henter) h
    | arrayHeader key =>
      obtain ⟨es₁, henter, h⟩ := Option.bind_eq_some_iff.mp h
      exact ih (Node.tidy_enter? (fun _ _ _ => Node.tidy_beginElement) hes henter) h
    | assign key value =>
      obtain ⟨raw, hraw, h⟩ := Option.bind_eq_some_iff.mp h
      have hvalue := value.tidy_raw? source hraw
      cases current with
      | nil =>
        obtain ⟨es₁, hassign, h⟩ := Option.bind_eq_some_iff.mp h
        exact ih (Node.tidy_assign? hvalue hes hassign) h
      | cons name names =>
        obtain ⟨es₁, hassign, h⟩ := Option.bind_eq_some_iff.mp h
        have hchange := Node.tidy_enter? (fun _ _ => Node.tidy_change fun _ _ => Node.tidy_assign? hvalue)
          hes hassign
        exact ih hchange h

theorem tidy_parse? {source text : String} {es : List (String × Raw)}
    (h : parse? source text = some es) : Tidy (.table (some source) es) := by
  obtain ⟨lines, -, h⟩ := Option.bind_eq_some_iff.mp h
  obtain ⟨fields, hrun, h⟩ := Option.bind_eq_some_iff.mp h
  cases h
  exact tidy_run? (tidyFields_nil (some source)) hrun

end Toml

/-! ### Formats -/

namespace FileFormat

/-- A format is read as tables that name no entry twice. -/
def IsTidy (f : FileFormat) : Prop :=
  ∀ name content es, f.read? name content = some es → Tidy (.table none es)

theorem isTidy_toml : toml.IsTidy := by
  intro name content es h
  exact (Toml.tidy_parse? h).of_source none

theorem isTidy_json : json.IsTidy := by
  intro name content es h
  exact (SettingsFile.tidy_jsonEntries? h).of_source none

theorem mem_of_ofName? {formats : List FileFormat} {path : String} {f : FileFormat}
    (h : ofName? formats path = some f) : f ∈ formats := by
  obtain ⟨e, -, hfound⟩ := Option.bind_eq_some_iff.mp h
  exact List.mem_of_find?_eq_some hfound

end FileFormat

theorem FilePath.mem_of_mem_candidates {formats : List FileFormat} {path : String}
    {c : String × FileFormat} (h : c ∈ candidates formats path) : c.2 ∈ formats := by
  rw [candidates] at h
  split at h
  · cases h
  · obtain ⟨f, hf, hc⟩ := List.mem_flatMap.mp h
    obtain ⟨e, -, rfl⟩ := List.mem_map.mp hc
    exact hf

namespace SettingsFile

variable {directory : Directory} {path : String}

theorem format_mem_of_find {found : Found} (h : find directory path = .ok found) :
    found.format ∈ directory.formats := by
  rw [find] at h
  split at h
  · split at h
    case h_1 format hformat =>
      cases h
      exact FileFormat.mem_of_ofName? hformat
    case h_2 => cases h
  · split at h
    case h_1 found' hfirst =>
      cases h
      obtain ⟨c, hc, htext⟩ := List.exists_of_findSome?_eq_some hfirst
      obtain ⟨content, -, rfl⟩ := Option.map_eq_some_iff.mp htext
      exact FilePath.mem_of_mem_candidates hc
    case h_2 => cases h

/-- A file names no setting twice if its format does not let it. -/
theorem tidy_entries (hformats : ∀ f ∈ directory.formats, f.IsTidy) {required : Bool}
    {es : List (String × Raw)} (h : entries directory path required = .ok es) :
    Tidy (.table none es) := by
  rw [entries] at h
  split at h
  case h_1 found hfind =>
    rw [Found.entries] at h
    split at h
    case h_1 es' hread =>
      cases h
      exact hformats _ (format_mem_of_find hfind) _ _ _ hread
    case h_2 => cases h
  case h_2 =>
    split at h
    · cases h
    · cases h
      exact Raw.tidy_nil none

end SettingsFile

end PasswordGrant
