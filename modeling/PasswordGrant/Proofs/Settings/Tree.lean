import PasswordGrant.Settings.Raw

/-!
# Values at places of a tree

Layers of settings are trees that are laid over one another. What a tree holds at a place of names
after that follows from laws of look-up and overlay, if no table names an entry twice.

* `Raw.at?` : the value at a place of names;
* `Raw.Tidy` : no table names an entry twice; overlays keep trees tidy;
* `Apart` : places that do not touch each other;
* `Raw.at?_setAt`, `Raw.at?_setAt_apart` : setting a value at a place, seen from there and from a
  place apart;
* `Raw.Plain`, `Raw.overlay_eq_merge` : the entries of an overlaid tree are laid over another one as
  the tree itself would be;
* `Raw.at?_merge` : a value of the upper tree hides what is below it.
-/

namespace PasswordGrant

namespace Raw

/-! ### Entries -/

@[simp] theorem entries_asTable (v : Raw) : v.asTable.entries = v.entries := by
  cases v <;> rfl

@[simp] theorem entries_withEntries (es : List (String × Raw)) (v : Raw) :
    (v.withEntries es).entries = es := by
  cases v <;> rfl

theorem withEntries_asTable (es : List (String × Raw)) (v : Raw) :
    v.asTable.withEntries es = .table v.asTable.source es := by
  cases v <;> rfl

theorem keys_put (key : String) (v : Raw) (es : List (String × Raw)) :
    (put key v es).map Prod.fst
      = if key ∈ es.map Prod.fst then es.map Prod.fst else es.map Prod.fst ++ [key] := by
  induction es with
  | nil => rfl
  | cons e es ih => grind [put]

theorem nodup_keys_put {key : String} {v : Raw} {es : List (String × Raw)}
    (h : (es.map Prod.fst).Nodup) : ((put key v es).map Prod.fst).Nodup := by
  rw [keys_put]
  split
  · exact h
  · rw [List.nodup_append]
    have hone : [key].Nodup := List.nodup_cons.mpr ⟨List.not_mem_nil, List.nodup_nil⟩
    refine ⟨h, hone, ?_⟩
    rintro k hk m hm rfl
    rw [List.mem_singleton.mp hm] at hk
    contradiction

theorem mem_put {key : String} {v : Raw} {es : List (String × Raw)} {e : String × Raw}
    (h : e ∈ put key v es) : e = (key, v) ∨ e ∈ es := by
  induction es with
  | nil => exact .inl (List.mem_singleton.mp h)
  | cons d es ih => grind [put]

theorem mem_of_lookup? {key : String} {v : Raw} {es : List (String × Raw)}
    (h : lookup? key es = some v) : (key, v) ∈ es := by
  induction es with
  | nil => cases h
  | cons e es ih => grind [lookup?]

theorem lookup?_eq_none {key : String} {es : List (String × Raw)} (h : key ∉ es.map Prod.fst) :
    lookup? key es = none := by
  induction es with
  | nil => rfl
  | cons e es ih => grind [lookup?]

/-! ### Tidy trees -/

/-- No table of a tree names an entry twice. Lists are not looked into. -/
inductive Tidy : Raw → Prop
  | scalar (source : Option String) (value : RawScalar) : Tidy (.scalar source value)
  | list (source : Option String) (items : List Raw) : Tidy (.list source items)
  | table {source : Option String} {es : List (String × Raw)}
      (hkeys : (es.map Prod.fst).Nodup) (hvalues : ∀ e ∈ es, Tidy e.2) : Tidy (.table source es)

theorem Tidy.nodup_keys {v : Raw} (h : Tidy v) : (v.entries.map Prod.fst).Nodup := by
  cases h with
  | table hkeys _ => exact hkeys
  | _ => exact List.nodup_nil

theorem Tidy.of_mem {v : Raw} (h : Tidy v) {e : String × Raw} (he : e ∈ v.entries) : Tidy e.2 := by
  cases h with
  | table _ hvalues => exact hvalues e he
  | _ => cases he

theorem Tidy.lookup?_getD {v : Raw} (h : Tidy v) (key : String) :
    Tidy ((lookup? key v.entries).getD null) := by
  cases hlookup : lookup? key v.entries with
  | none => exact .scalar none .null
  | some value => exact h.of_mem (mem_of_lookup? hlookup)

theorem Tidy.put {v value : Raw} (h : Tidy v) (hvalue : Tidy value) (key : String) :
    Tidy (v.asTable.withEntries (put key value v.entries)) := by
  rw [withEntries_asTable]
  refine .table (nodup_keys_put h.nodup_keys) fun e he => ?_
  rcases mem_put he with rfl | he
  · exact hvalue
  · exact h.of_mem he

theorem Tidy.asTable {v : Raw} (h : Tidy v) : Tidy (.table v.asTable.source v.entries) := by
  cases h with
  | table hkeys hvalues => exact .table hkeys hvalues
  | _ => exact .table List.nodup_nil fun e he => by cases he

mutual

/-- Laying any value over a tidy one gives a tidy one: the tables of the new value are put together
entry by entry. -/
theorem Tidy.merge {old : Raw} (h : Tidy old) : (new : Raw) → Tidy (Raw.merge old new)
  | .scalar source value => .scalar source value
  | .list source items => .list source items
  | .table _ es => by
    rw [Raw.merge, withEntries_asTable, entries_asTable]
    exact h.asTable.mergeEntries es

theorem Tidy.mergeEntries {source : Option String} {old : List (String × Raw)}
    (h : Tidy (.table source old)) :
    (new : List (String × Raw)) → Tidy (.table source (Raw.mergeEntries old new))
  | [] => h
  | (key, value) :: es => by
    rw [Raw.mergeEntries]
    have hvalue : Tidy (Raw.merge ((lookup? key old).getD null) value) :=
      (h.lookup?_getD key).merge value
    exact (h.put hvalue key).mergeEntries es

end

theorem Tidy.setAt {old : Raw} (h : Tidy old) (new : Raw) (steps : List KeyStep) :
    Tidy (Raw.setAt new steps old) := by
  induction steps generalizing old with
  | nil => exact h.merge new
  | cons step steps ih =>
    cases step with
    | key name =>
      rw [Raw.setAt, entries_asTable]
      exact h.put (ih (h.lookup?_getD name)) name
    | index i => exact .list _ _

theorem Tidy.overlay {tree : Raw} (h : Tidy tree) (es : List (String × Raw)) :
    Tidy (tree.overlay es) := by
  induction es generalizing tree with
  | nil => exact h
  | cons e es ih => exact ih (h.setAt e.2 (KeyPath.ofKey e.1))

theorem tidy_emptyTable : Tidy emptyTable := .table List.nodup_nil fun e he => by cases he

/-! ### Places of names -/

/-- The value at a place of names. -/
def at? : List String → Raw → Option Raw
  | [], v => some v
  | name :: names, v => (lookup? name v.entries).bind (at? names)

@[simp] theorem at?_nil (v : Raw) : at? [] v = some v := rfl

theorem at?_cons (name : String) (names : List String) (v : Raw) :
    at? (name :: names) v = (lookup? name v.entries).bind (at? names) := rfl

theorem at?_cons_cons (name next : String) (names : List String) (v : Raw) :
    at? (name :: next :: names) v
      = at? (next :: names) ((lookup? name v.entries).getD null) := by
  rw [at?_cons]
  cases lookup? name v.entries with
  | none => rfl
  | some value => rfl

theorem at?_cons_getD (name : String) (names : List String) (v : Raw) :
    (at? (name :: names) v).getD null
      = (at? names ((lookup? name v.entries).getD null)).getD null := by
  cases names with
  | nil =>
    rw [at?_cons]
    cases lookup? name v.entries <;> rfl
  | cons next names => rw [at?_cons_cons]

/-- A value laid at a place is found there, laid over the one that was there. -/
theorem at?_setAt (new : Raw) (names : List String) (old : Raw) :
    at? names (setAt new (names.map .key) old) = some (merge ((at? names old).getD null) new) := by
  induction names generalizing old with
  | nil => rfl
  | cons name names ih =>
    rw [List.map_cons, setAt, entries_asTable, at?_cons, entries_withEntries, lookup?_put, if_pos rfl,
      Option.bind_some, ih, at?_cons_getD]

theorem merge_scalar (old : Raw) (source : Option String) (value : RawScalar) :
    merge old (.scalar source value) = .scalar source value := by
  rw [merge]
  nofun

end Raw

/-! ### Places apart -/

/-- A place of names and a place do not touch: the first steps that differ are two names. -/
inductive Apart : List String → List KeyStep → Prop
  | differ {name other : String} {names : List String} {steps : List KeyStep}
      (h : name ≠ other) : Apart (name :: names) (.key other :: steps)
  | later {name : String} {names : List String} {steps : List KeyStep} (h : Apart names steps) :
      Apart (name :: names) (.key name :: steps)

namespace Raw

/-- A value set at a place is not seen from a place apart. -/
theorem at?_setAt_apart {names : List String} {steps : List KeyStep} (h : Apart names steps)
    (new old : Raw) : at? names (setAt new steps old) = at? names old := by
  induction h generalizing old with
  | differ hne => rw [setAt, entries_asTable, at?_cons, entries_withEntries, lookup?_put, if_neg hne,
      at?_cons]
  | @later name names steps hapart ih =>
    rw [setAt, entries_asTable, at?_cons, entries_withEntries, lookup?_put, if_pos rfl,
      Option.bind_some, ih]
    -- there is a further name, so a missing entry and an entry of nothing hold the same below
    obtain ⟨next, rest, rfl⟩ : ∃ next rest, names = next :: rest := by
      cases hapart with
      | differ _ => exact ⟨_, _, rfl⟩
      | later _ => exact ⟨_, _, rfl⟩
    rw [at?_cons_cons]

theorem at?_overlay_apart {names : List String} {es : List (String × Raw)}
    (h : ∀ e ∈ es, Apart names (KeyPath.ofKey e.1)) (tree : Raw) :
    at? names (tree.overlay es) = at? names tree := by
  induction es generalizing tree with
  | nil => rfl
  | cons e es ih =>
    have hes : ∀ d ∈ es, Apart names (KeyPath.ofKey d.1) := fun d hd => h d (List.mem_cons_of_mem e hd)
    have hstep : tree.overlay (e :: es) = (setAt e.2 (KeyPath.ofKey e.1) tree).overlay es := rfl
    rw [hstep, ih hes, at?_setAt_apart (h e List.mem_cons_self)]

theorem at?_overlay_last {names : List String} {key : String} {source : Option String}
    {value : RawScalar} {before after : List (String × Raw)}
    (hkey : KeyPath.ofKey key = names.map .key)
    (hafter : ∀ e ∈ after, Apart names (KeyPath.ofKey e.1)) (tree : Raw) :
    at? names (tree.overlay (before ++ (key, .scalar source value) :: after))
      = some (.scalar source value) := by
  have hsplit : tree.overlay (before ++ (key, .scalar source value) :: after)
      = (setAt (.scalar source value) (KeyPath.ofKey key) (tree.overlay before)).overlay after := by
    rw [overlay, List.foldl_append]
    rfl
  rw [hsplit, at?_overlay_apart hafter, hkey, at?_setAt, merge_scalar]

end Raw

/-! ### Laying a whole tree over another -/

/-- A text is read as a place that begins with a name, and that name is read as itself. -/
theorem KeyPath.ofKey_eq (key : String) :
    ∃ name steps, ofKey key = .key name :: steps ∧ ofKey name = [.key name] := by
  cases hparse : parse? key with
  | none =>
    have hkey : ofKey key = [.key key] := by rw [ofKey, hparse, Option.getD_none]
    exact ⟨key, [], hkey, hkey⟩
  | some steps =>
    have hplace := hparse
    rw [parse?] at hparse
    generalize hname : key.toList.takeWhile isNameChar = name at hparse
    have hchars : ∀ c ∈ name, isNameChar c = true := by
      rw [← hname]
      exact List.all_eq_true.mp List.all_takeWhile
    cases hempty : name.isEmpty with
    | true => simp [hempty] at hparse
    | false =>
      simp only [hempty, Bool.false_eq_true, if_false, Option.map_eq_some_iff] at hparse
      obtain ⟨rest, -, rfl⟩ := hparse
      refine ⟨String.ofList name, rest, by rw [ofKey, hplace, Option.getD_some], ?_⟩
      have htake : (name ++ []).takeWhile isNameChar = name ++ [] :=
        List.takeWhile_append_of_pos hchars
      have hdrop : (name ++ []).dropWhile isNameChar = [] := List.dropWhile_append_of_pos hchars
      rw [List.append_nil] at htake hdrop
      rw [ofKey, parse?, String.toList_ofList, htake, hdrop, hempty]
      rfl

namespace Raw

/-- The names at the top of a tree are read as themselves. -/
def Plain (v : Raw) : Prop := ∀ e ∈ v.entries, KeyPath.ofKey e.1 = [.key e.1]

theorem Plain.overlay {tree : Raw} (h : Plain tree) (es : List (String × Raw)) :
    Plain (tree.overlay es) := by
  induction es generalizing tree with
  | nil => exact h
  | cons e es ih =>
    obtain ⟨name, steps, hplace, hname⟩ := KeyPath.ofKey_eq e.1
    have hstep : Plain (setAt e.2 (KeyPath.ofKey e.1) tree) := by
      intro d hd
      rw [hplace, setAt, entries_withEntries, entries_asTable] at hd
      rcases mem_put hd with rfl | hd
      · exact hname
      · exact h d hd
    exact ih hstep

theorem overlay_table (source : Option String) (old es : List (String × Raw)) :
    ∃ new, (Raw.table source old).overlay es = .table source new := by
  induction es generalizing old with
  | nil => exact ⟨old, rfl⟩
  | cons e es ih =>
    obtain ⟨name, steps, hplace, -⟩ := KeyPath.ofKey_eq e.1
    obtain ⟨new, hnew⟩ := ih (put name (setAt e.2 steps ((lookup? name old).getD null)) old)
    refine ⟨new, ?_⟩
    rw [← hnew, overlay, List.foldl_cons, hplace]
    rfl

theorem overlay_plain {source : Option String} {es : List (String × Raw)}
    (h : ∀ e ∈ es, KeyPath.ofKey e.1 = [.key e.1]) (old : List (String × Raw)) :
    (Raw.table source old).overlay es = .table source (mergeEntries old es) := by
  induction es generalizing old with
  | nil => rw [mergeEntries]; rfl
  | cons e es ih =>
    have hes : ∀ d ∈ es, KeyPath.ofKey d.1 = [.key d.1] := fun d hd => h d (List.mem_cons_of_mem e hd)
    rw [mergeEntries, ← ih hes, overlay, List.foldl_cons, h e List.mem_cons_self]
    rfl

/-- The entries of a plain table are laid over a table as the table would be. -/
theorem overlay_eq_merge {source other : Option String} {es : List (String × Raw)}
    (h : Plain (.table other es)) (old : List (String × Raw)) :
    (Raw.table source old).overlay (Raw.table other es).entries
      = merge (.table source old) (.table other es) := by
  rw [overlay_plain h, merge]
  rfl

/-- What entries hold after others were laid over them, none of which is named twice. -/
theorem lookup?_mergeEntries {es : List (String × Raw)} (h : (es.map Prod.fst).Nodup) (key : String)
    (old : List (String × Raw)) :
    lookup? key (mergeEntries old es)
      = ((lookup? key es).map (merge ((lookup? key old).getD null))).or (lookup? key old) := by
  induction es generalizing old with
  | nil =>
    rw [mergeEntries]
    rfl
  | cons e es ih =>
    obtain ⟨name, value⟩ := e
    rw [List.map_cons, List.nodup_cons] at h
    rw [mergeEntries, ih h.2, lookup?_put, lookup?]
    by_cases hkey : key = name
    · -- the name does not come again, so nothing is laid over what is laid here
      subst hkey
      rw [lookup?_eq_none h.1, if_pos rfl, if_pos rfl]
      rfl
    · rw [if_neg hkey, if_neg (Ne.symm hkey)]

/-- A value of a tidy tree is found in any tree that it is laid over, laid over what was there. -/
theorem at?_merge {names : List String} {new value : Raw} (h : Tidy new)
    (hvalue : at? names new = some value) (old : Raw) :
    at? names (merge old new) = some (merge ((at? names old).getD null) value) := by
  induction names generalizing old new with
  | nil =>
    cases hvalue
    rfl
  | cons name names ih =>
    rw [at?_cons] at hvalue
    obtain ⟨part, hpart, hvalue⟩ := Option.bind_eq_some_iff.mp hvalue
    have hkeys := h.nodup_keys
    have htidy : Tidy part := h.of_mem (mem_of_lookup? hpart)
    have hentries : (merge old new).entries = mergeEntries old.entries new.entries := by
      cases new with
      | table source es => rw [merge, entries_withEntries, entries_asTable]; rfl
      | _ => cases hpart
    rw [at?_cons, hentries, lookup?_mergeEntries hkeys, hpart, Option.map_some, Option.some_or,
      Option.bind_some, ih htidy hvalue, at?_cons_getD]

end Raw

end PasswordGrant
