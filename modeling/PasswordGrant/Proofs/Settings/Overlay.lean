import PasswordGrant.Proofs.Settings.Tree

/-!
# What layers leave alone

A tree that is laid over another one changes it at the places where it holds something, and nowhere
else, as long as only tables stand on the way to a place. What comes of a value itself is that its
tables belong to no source any more.

* `Raw.pooled` : a value whose tables have no source; `Raw.merge_eq_pooled` : what replaces a value
  without parts; `Raw.at?_pooled` : what it holds;
* `Raw.Passable` : only tables stand on the way to a place; `Raw.Passable.setAt`, `Raw.Passable.overlay` :
  values set at places apart do not change that;
* `Raw.at?_merge_of_none` : where a tree holds nothing, what is below it is found;
* `Raw.at?_overlay_of_mem` : values for a place that agree are found there in any order.
-/

namespace PasswordGrant.Raw

/-! ### Values without sources of tables -/

mutual

/-- A value whose tables have no source. Lists are not looked into. -/
def pooled : Raw → Raw
  | .table _ es => .table none (pooledEntries es)
  | .scalar source value => .scalar source value
  | .list source items => .list source items

/-- Entries whose tables have no source. -/
def pooledEntries : List (String × Raw) → List (String × Raw)
  | [] => []
  | (key, v) :: es => (key, v.pooled) :: pooledEntries es

end

theorem lookup?_pooledEntries (key : String) (es : List (String × Raw)) :
    lookup? key (pooledEntries es) = (lookup? key es).map pooled := by
  induction es with
  | nil => rfl
  | cons e es ih =>
    rw [pooledEntries, lookup?, lookup?, ih]
    split <;> rfl

theorem entries_pooled (v : Raw) : v.pooled.entries = pooledEntries v.entries := by
  cases v with
  | table source es => rw [pooled]; rfl
  | scalar source value => rw [pooled]; rfl
  | list source items => rw [pooled]; rfl

/-- What a value holds without the sources of its tables is what it holds, without them as well. -/
theorem at?_pooled (names : List String) (v : Raw) : at? names v.pooled = (at? names v).map pooled := by
  induction names generalizing v with
  | nil => rfl
  | cons name names ih =>
    rw [at?_cons, at?_cons, entries_pooled, lookup?_pooledEntries]
    cases lookup? name v.entries with
    | none => rfl
    | some w => exact ih w

theorem put_of_notMem {key : String} {es : List (String × Raw)} (h : key ∉ es.map Prod.fst) (v : Raw) :
    put key v es = es ++ [(key, v)] := by
  induction es with
  | nil => rfl
  | cons e es ih =>
    rw [List.map_cons, List.mem_cons, not_or] at h
    rw [put, if_neg (Ne.symm h.1), ih h.2]
    rfl

mutual

/-- A tidy value that is laid over one without parts replaces it. -/
theorem merge_eq_pooled {old : Raw} (hold : old.asTable = emptyTable) :
    (v : Raw) → Tidy v → merge old v = v.pooled
  | .scalar source value, _ => merge_scalar old source value
  | .list source items, _ => by
    rw [merge, pooled]
    nofun
  | .table _ es, h => by
    rw [merge, hold, pooled]
    show table none (mergeEntries [] es) = _
    rw [mergeEntries_eq_append [] es h.nodup_keys (fun _ he => h.of_mem he) (fun _ _ => List.not_mem_nil),
      List.nil_append]

/-- Tidy entries that are laid over entries with other names come behind them. -/
theorem mergeEntries_eq_append (old : List (String × Raw)) :
    (es : List (String × Raw)) → (es.map Prod.fst).Nodup → (∀ e ∈ es, Tidy e.2) →
      (∀ key ∈ es.map Prod.fst, key ∉ old.map Prod.fst) → mergeEntries old es = old ++ pooledEntries es
  | [], _, _, _ => by rw [mergeEntries, pooledEntries, List.append_nil]
  | (key, v) :: es, hnodup, hvalues, hnew => by
    rw [List.map_cons, List.nodup_cons] at hnodup
    rw [List.forall_mem_cons] at hvalues
    rw [List.map_cons, List.forall_mem_cons] at hnew
    have hnull : null.asTable = emptyTable := rfl
    have hlater : ∀ k ∈ es.map Prod.fst, k ∉ (old ++ [(key, v.pooled)]).map Prod.fst := by
      intro k hk
      rw [List.map_append, List.mem_append, not_or]
      refine ⟨hnew.2 k hk, fun hkey => hnodup.1 ?_⟩
      rw [← List.mem_singleton.mp hkey]
      exact hk
    rw [mergeEntries, lookup?_eq_none hnew.1, Option.getD_none, merge_eq_pooled hnull v hvalues.1,
      put_of_notMem hnew.1, mergeEntries_eq_append _ es hnodup.2 hvalues.2 hlater, List.append_assoc,
      pooledEntries]
    rfl

end

mutual

theorem pooled_pooled : (v : Raw) → v.pooled.pooled = v.pooled
  | .scalar source value => by rw [pooled, pooled]
  | .list source items => by rw [pooled, pooled]
  | .table source es => by rw [pooled, pooled, pooledEntries_pooledEntries es]

theorem pooledEntries_pooledEntries :
    (es : List (String × Raw)) → pooledEntries (pooledEntries es) = pooledEntries es
  | [] => rfl
  | (key, v) :: es => by rw [pooledEntries, pooledEntries, pooled_pooled v, pooledEntries_pooledEntries es]

end

theorem Tidy.at? {names : List String} {v w : Raw} (h : Tidy v) (hw : Raw.at? names v = some w) :
    Tidy w := by
  induction names generalizing v with
  | nil =>
    cases hw
    exact h
  | cons name names ih =>
    obtain ⟨u, hu, hw⟩ := Option.bind_eq_some_iff.mp hw
    exact ih (h.of_mem (mem_of_lookup? hu)) hw

/-! ### Ways to places -/

def isTable : Raw → Bool
  | .table _ _ => true
  | _ => false

/-- Only tables stand on the way to a place, as far as anything stands there. -/
def Passable : List String → Raw → Prop
  | [], _ => True
  | name :: names, v => ∀ w, lookup? name v.entries = some w →
      (names = [] ∨ w.isTable = true) ∧ Passable names w

theorem passable_null : (names : List String) → Passable names null
  | [] => trivial
  | _ :: _ => nofun

/-- A value set at a place apart leaves the way passable. -/
theorem Passable.setAt {names : List String} {steps : List KeyStep} (hapart : Apart names steps)
    {old : Raw} (h : Passable names old) (new : Raw) : Passable names (Raw.setAt new steps old) := by
  induction hapart generalizing old with
  | differ hne =>
    intro w hw
    rw [Raw.setAt, entries_withEntries, entries_asTable, lookup?_put, if_neg hne] at hw
    exact h w hw
  | @later name names steps hlater ih =>
    intro w hw
    rw [Raw.setAt, entries_withEntries, entries_asTable, lookup?_put, if_pos rfl, Option.some.injEq] at hw
    subst hw
    have hinner : Passable names ((lookup? name old.entries).getD null) := by
      cases hlookup : lookup? name old.entries with
      | none => exact passable_null names
      | some v => exact (h v hlookup).2
    refine ⟨.inr ?_, ih hinner⟩
    -- the place goes on with a name, so what is set there is set in a table
    cases hlater with
    | differ _ => rw [Raw.setAt, withEntries_asTable, isTable]
    | later _ => rw [Raw.setAt, withEntries_asTable, isTable]

/-- So do values set at places apart one after the other. -/
theorem Passable.overlay {names : List String} {es : List (String × Raw)}
    (hes : ∀ e ∈ es, Apart names (KeyPath.ofKey e.1)) {tree : Raw} (h : Passable names tree) :
    Passable names (tree.overlay es) := by
  induction es generalizing tree with
  | nil => exact h
  | cons e es ih =>
    rw [List.forall_mem_cons] at hes
    exact ih hes.2 (h.setAt hes.1 e.2)

/-- Pooling does not change what stands on the way. -/
theorem Passable.pooled {names : List String} {v : Raw} (h : Passable names v) :
    Passable names v.pooled := by
  induction names generalizing v with
  | nil => trivial
  | cons name names ih =>
    intro w hw
    rw [entries_pooled, lookup?_pooledEntries] at hw
    obtain ⟨u, hu, rfl⟩ := Option.map_eq_some_iff.mp hw
    refine ⟨(h u hu).1.imp id fun htable => ?_, ih (h u hu).2⟩
    cases u with
    | table source es => rw [Raw.pooled, isTable]
    | _ => cases htable

/-- Where a tidy table holds nothing and the way is passable, there is found what was there before it was
laid over. -/
theorem at?_merge_of_none {names : List String} {source : Option String} {es : List (String × Raw)}
    (h : Tidy (.table source es)) (hway : Passable names (.table source es))
    (hnone : at? names (.table source es) = none) (old : Raw) :
    at? names (merge old (.table source es)) = at? names old := by
  induction names generalizing source es old with
  | nil => cases hnone
  | cons name names ih =>
    have hentries : (merge old (.table source es)).entries = mergeEntries old.entries es := by
      rw [merge, entries_withEntries, entries_asTable]
    have hkeys : (es.map Prod.fst).Nodup := h.nodup_keys
    rw [at?_cons, hentries, lookup?_mergeEntries hkeys]
    cases hlookup : lookup? name es with
    | none => rfl
    | some w =>
      have hw : at? names w = none := by
        rw [at?_cons, show lookup? name (table source es).entries = some w from hlookup] at hnone
        exact hnone
      obtain ⟨htable, hinner⟩ := hway w hlookup
      cases names with
      | nil => cases hw
      | cons next names =>
        cases w with
        | table source' es' =>
          have hlower := ih (h.of_mem (mem_of_lookup? hlookup)) hinner hw
            ((lookup? name old.entries).getD null)
          rw [Option.map_some, Option.some_or, Option.bind_some, hlower, at?_cons_cons]
        | _ => exact absurd (htable.resolve_left (List.cons_ne_nil next names)) Bool.false_ne_true

/-! ### One value for a place -/

theorem apart_of_not_prefix {names others : List String} (h : ¬names <+: others) (h' : ¬others <+: names) :
    Apart names (others.map .key) := by
  induction names generalizing others with
  | nil => exact absurd List.nil_prefix h
  | cons name names ih =>
    cases others with
    | nil => exact absurd List.nil_prefix h'
    | cons other others =>
      by_cases hname : name = other
      · subst hname
        rw [List.prefix_cons_inj] at h h'
        exact .later (ih h h')
      · exact .differ hname

/-- If all entries that touch a place set it to the same value without parts, and there is one, then this
value is found there, whatever the order of the entries is. -/
theorem at?_overlay_of_mem {names : List String} {source : Option String} {value : RawScalar}
    {es : List (String × Raw)} (hes : ∀ e ∈ es, Apart names (KeyPath.ofKey e.1) ∨
      KeyPath.ofKey e.1 = names.map .key ∧ e.2 = .scalar source value)
    (hmem : ∃ e ∈ es, KeyPath.ofKey e.1 = names.map .key ∧ e.2 = .scalar source value) (tree : Raw) :
    at? names (tree.overlay es) = some (.scalar source value) := by
  induction es generalizing tree with
  | nil =>
    obtain ⟨e, he, -⟩ := hmem
    cases he
  | cons d es ih =>
    rw [List.forall_mem_cons] at hes
    have hstep : tree.overlay (d :: es) = (Raw.setAt d.2 (KeyPath.ofKey d.1) tree).overlay es := rfl
    rw [hstep]
    by_cases hlater : ∃ e ∈ es, KeyPath.ofKey e.1 = names.map .key ∧ e.2 = .scalar source value
    · exact ih hes.2 hlater _
    · -- the first entry is the last one that touches the place
      have hapart : ∀ e ∈ es, Apart names (KeyPath.ofKey e.1) := fun e he =>
        (hes.2 e he).resolve_right fun hset => hlater ⟨e, he, hset⟩
      obtain ⟨hkey, hvalue⟩ : KeyPath.ofKey d.1 = names.map .key ∧ d.2 = .scalar source value := by
        obtain ⟨e, he, hset⟩ := hmem
        rcases List.mem_cons.mp he with rfl | he
        · exact hset
        · exact absurd ⟨e, he, hset⟩ hlater
      rw [at?_overlay_apart hapart, hkey, at?_setAt, hvalue, merge_scalar]

end PasswordGrant.Raw
