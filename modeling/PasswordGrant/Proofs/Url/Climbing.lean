import PasswordGrant.Proofs.Url.Growth
import PasswordGrant.Proofs.Url.Parts

/-!
# How far a path shrinks

A double dot itself is skipped, but a name of which a double dot is kept takes a segment away. Only
the first name of which anything is kept can reach what was there before: once a name stands behind a
path, or a segment was taken off it, nothing that follows takes away more.

* `Path.Climbs` : names that take a segment away; `Path.Leaves` : lists of names that begin with one;
* `Path.Behind` : what is left of a path that has grown, and that it is kept by one name more
  (`Path.Behind.push`) and by any number of them (`Path.Behind.pushAll`);
* `Path.exists_base_pushAll` : what is left when a list of names is put behind a path;
* `Path.front`, `Path.stem` : a path without one slash at its end, by its segments and by its text.
-/

namespace PasswordGrant.Path

variable {p : Path} {s : String} {above own names : List String}

/-! ### One segment less -/

/-- Segments with an empty one behind them, unless there are none: what is left of a path that a slash
ends. -/
def closed (above : List String) : List String := if above = [] then [] else above ++ [""]

theorem base_mk (above : List String) (last : String) :
    (⟨above, last⟩ : Path).base = if above = [] ∧ last = "" then [] else above ++ [last] := by
  simp [base, root, segments]

theorem base_mk_empty (above : List String) : (⟨above, ""⟩ : Path).base = closed above := by
  simp [base_mk, closed]

theorem shorten_append (h : own ≠ []) : shorten (above ++ own) = above ++ shorten own := by
  obtain ⟨init, last, rfl⟩ : ∃ init last, own = init ++ [last] :=
    ⟨_, _, (List.dropLast_concat_getLast h).symm⟩
  rw [← List.append_assoc]
  simp only [shorten, List.getLast?_concat, List.dropLast_concat]
  split
  · rw [List.append_assoc]
  · rfl

theorem prefix_closed (above : List String) : above <+: closed above := by
  rw [closed]
  split
  case isTrue hnil =>
    subst hnil
    exact List.prefix_rfl
  case isFalse => exact List.prefix_append _ _

theorem dropLast_prefix_closed_shorten (above : List String) :
    above.dropLast <+: closed (shorten above) := by
  refine List.IsPrefix.trans ?_ (prefix_closed _)
  unfold shorten
  split
  case h_1 hlast =>
    rw [List.getLast?_eq_none_iff.mp hlast]
    exact List.nil_prefix
  case h_2 =>
    split
    · exact List.dropLast_prefix above
    · exact List.prefix_rfl

/-- Segments from which a double dot takes nothing that does not come back at once. -/
def Settled (above : List String) : Prop := closed (shorten above) = above

theorem settled_closed (above : List String) : Settled (closed above) := by
  by_cases h : above = []
  · rw [h]
    rfl
  · have hshorten : shorten (above ++ [""]) = above := by
      rw [shorten_append (List.cons_ne_nil _ _)]
      exact List.append_nil above
    have hclosed : closed above = above ++ [""] := by rw [closed, if_neg h]
    rw [Settled, hclosed, hshorten, hclosed]

/-! ### Names that take a segment away -/

/-- A name of which a double dot is kept. It is not the double dot itself. -/
def Climbs (s : String) : Prop := kept s = some ['.', '.']

/-- The first name of which anything is kept takes a segment away. -/
def Leaves (names : List String) : Prop := (names.filterMap kept).head? = some ['.', '.']

instance : DecidablePred Climbs := fun _ => inferInstanceAs (Decidable (_ = _))

instance : DecidablePred Leaves := fun _ => inferInstanceAs (Decidable (_ = _))

theorem leaves_cons_of_none (h : kept s = none) : Leaves (s :: names) ↔ Leaves names := by
  rw [Leaves, Leaves, List.filterMap_cons_none h]

theorem leaves_cons_of_some {cs : List Char} (h : kept s = some cs) :
    Leaves (s :: names) ↔ cs = ['.', '.'] := by
  rw [Leaves, List.filterMap_cons_some h, List.head?_cons, Option.some_inj]

/-- A path lies behind segments: they are what it begins with, and another segment follows them, or none of
them can be taken away. -/
def Behind (above : List String) (p : Path) : Prop :=
  ∃ own, p.base = above ++ own ∧ (own = [] → Settled above)

theorem behind_mk (above own : List String) (last : String) : Behind above ⟨above ++ own, last⟩ := by
  rw [Behind, base_mk]
  split
  case isTrue h =>
    obtain ⟨hfront, -⟩ := List.append_eq_nil_iff.mp h.1
    exact ⟨[], by rw [hfront]; rfl, fun _ => by rw [hfront]; rfl⟩
  case isFalse =>
    exact ⟨own ++ [last], List.append_assoc _ _ _, fun h => absurd h (List.concat_ne_nil _ _)⟩

theorem behind_push (h : ¬Climbs s) (hkept : kept s ≠ none) : Behind p.base (p.push s) := by
  have hmk := behind_mk p.base []
  rw [List.append_nil] at hmk
  rw [push_eq]
  cases hs : kept s with
  | none => exact absurd hs hkept
  | some cs =>
    have hdouble : cs ≠ ['.', '.'] := by
      rintro rfl
      exact h hs
    dsimp only
    rw [if_neg hdouble]
    split
    · exact hmk ""
    · exact hmk _

theorem behind_push_of_climbs (h : Climbs s) : Behind (closed (shorten p.base)) (p.push s) := by
  refine ⟨[], ?_, fun _ => settled_closed _⟩
  rw [push_eq, h, List.append_nil]
  exact base_mk_empty _

/-- What a path lies behind is kept by every name that is put at its end. -/
theorem Behind.push (h : Behind above p) (s : String) : Behind above (p.push s) := by
  obtain ⟨own, hbase, hsettled⟩ := h
  by_cases hclimbs : Climbs s
  · rw [push_eq, hclimbs]
    show Behind above ⟨shorten p.base, ""⟩
    rw [hbase]
    by_cases hown : own = []
    · -- nothing follows the segments, so they come back
      refine ⟨[], ?_, fun _ => hsettled hown⟩
      rw [hown, List.append_nil, base_mk_empty]
      exact hsettled hown
    · rw [shorten_append hown]
      exact behind_mk _ _ _
  · by_cases hkept : kept s = none
    · rw [push_eq, hkept]
      exact ⟨own, hbase, hsettled⟩
    · obtain ⟨more, hmore, hnone⟩ := behind_push (p := p) hclimbs hkept
      rw [hbase, List.append_assoc] at hmore
      refine ⟨own ++ more, hmore, fun hnil => ?_⟩
      exact hsettled (List.append_eq_nil_iff.mp hnil).1

theorem Behind.pushAll (h : Behind above p) (names : List String) : Behind above (p.pushAll names) := by
  induction names generalizing p with
  | nil => exact h
  | cons s names ih => exact ih (h.push s)

/-- Names that are put behind a path take away one segment at most, and none unless the first of them of
which anything is kept climbs. -/
theorem exists_base_pushAll (p : Path) (names : List String) :
    ∃ own, (p.pushAll names).base
      = (if Leaves names then closed (shorten p.base) else p.base) ++ own := by
  induction names with
  | nil =>
    refine ⟨[], ?_⟩
    rw [if_neg (by decide), List.append_nil]
    rfl
  | cons s names ih =>
    by_cases hclimbs : Climbs s
    · rw [if_pos ((leaves_cons_of_some hclimbs).mpr rfl)]
      obtain ⟨own, hown, -⟩ := (behind_push_of_climbs (p := p) hclimbs).pushAll names
      exact ⟨own, hown⟩
    cases hkept : kept s with
    | none =>
      -- the name is put nowhere
      have hpush : p.push s = p := by rw [push_eq, hkept]
      show ∃ own, ((p.push s).pushAll names).base = _
      rw [hpush]
      simp only [leaves_cons_of_none hkept]
      exact ih
    | some cs =>
      have hstays : ¬Leaves (s :: names) := by
        intro hleaves
        rw [leaves_cons_of_some hkept] at hleaves
        rw [Climbs, hkept, hleaves] at hclimbs
        exact hclimbs rfl
      rw [if_neg hstays]
      have hsome : kept s ≠ none := by
        rw [hkept]
        exact Option.some_ne_none cs
      obtain ⟨own, hown, -⟩ := (behind_push hclimbs hsome).pushAll names
      exact ⟨own, hown⟩

/-! ### Without the slash at the end -/

/-- The segments of a path without one slash at its end. -/
def front (p : Path) : List String := p.dropFinalSlash.base

/-- Segments as text, with a slash before each of them. -/
def slashed (segments : List String) : List Char := segments.flatMap fun s => '/' :: s.toList

theorem slashed_append (above own : List String) : slashed (above ++ own) = slashed above ++ slashed own :=
  List.flatMap_append

/-- The text of a path without one slash at its end. -/
def stem (p : Path) : List Char :=
  if p.text.toList.getLast? = some '/' then p.text.toList.dropLast else p.text.toList

/-- A path is what is left without a slash at its end, and perhaps that slash; but of two slashes alone
nothing is left. -/
theorem segments_cases (h : p ≠ ⟨[""], ""⟩) :
    (p.last ≠ "" ∧ p.segments = p.front) ∨ p.segments = p.front ++ [""] := by
  obtain ⟨init, last⟩ := p
  by_cases hlast : last = ""
  · subst hlast
    right
    by_cases hinit : init = []
    · rw [hinit]
      rfl
    · obtain ⟨pre, s, rfl⟩ : ∃ pre s, init = pre ++ [s] :=
        ⟨_, _, (List.dropLast_concat_getLast hinit).symm⟩
      have hdrop : dropFinalSlash ⟨pre ++ [s], ""⟩ = ⟨pre, s⟩ := by
        simp only [dropFinalSlash, List.getLast?_concat, List.dropLast_concat]
        rfl
      have hbase : base ⟨pre, s⟩ = pre ++ [s] := by
        rw [base_mk, if_neg]
        rintro ⟨rfl, rfl⟩
        exact h rfl
      rw [front, hdrop, hbase]
      rfl
  · left
    have hdrop : dropFinalSlash ⟨init, last⟩ = ⟨init, last⟩ := by
      have hnonempty : last.isEmpty = false := by simpa using hlast
      simp [dropFinalSlash, hnonempty]
    refine ⟨hlast, ?_⟩
    rw [front, hdrop, base_eq_segments hlast]

/-- The text without a slash at its end is that of the segments without it. -/
theorem stem_eq (hp : p.Delimited) (h : p ≠ ⟨[""], ""⟩) : p.stem = slashed p.front := by
  rcases segments_cases h with ⟨hlast, hsegments⟩ | hsegments
  · have htext : p.text.toList = slashed p.front := by rw [toList_text, hsegments, slashed]
    -- the text ends with a character of the last segment, which is no slash
    have hend : p.text.toList.getLast? ≠ some '/' := by
      have hchars : p.last.toList ≠ [] := by simpa using hlast
      rw [toList_text, segments, List.flatMap_append, List.flatMap_singleton, List.getLast?_append,
        List.getLast?_cons_of_ne_nil hchars, List.getLast?_eq_some_getLast hchars, Option.some_or]
      intro hslash
      have hmem : p.last ∈ p.segments := List.mem_append_right _ List.mem_cons_self
      have hfree := hp _ hmem _ (List.getLast_mem hchars)
      rw [Option.some.inj hslash] at hfree
      cases hfree
    rw [stem, if_neg hend, htext]
  · have htext : p.text.toList = slashed p.front ++ ['/'] := by
      rw [toList_text, hsegments, List.flatMap_append]
      rfl
    have hend : p.text.toList.getLast? = some '/' := by rw [htext, List.getLast?_concat]
    rw [stem, if_pos hend, htext, List.dropLast_concat]

end PasswordGrant.Path
