import PasswordGrant.Proofs.Url.Percent
import PasswordGrant.Url.Basic

/-!
# How a path grows

What a path becomes when a text is put at its end depends on what is kept of the text: dot segments
are not put there at all, and tabs and line ends are dropped first. Plain names are put there as they
are.

* `Path.kept` : what is kept of a text; `Path.push_eq` : what the path becomes by it;
* `Path.Plain` : the texts that are put there as they are;
* `Path.segments_pushAll` : plain names follow the segments that are there.
-/

namespace PasswordGrant.Path

variable {p : Path} {s : String} {names : List String}

/-! ### What is kept of a text -/

/-- What is kept of a text that is put at the end of a path: nothing of a dot segment, and of any
other text all but tabs and line ends. -/
def kept (segment : String) : Option (List Char) :=
  if segment = "." ∨ segment = ".." then none
  else some (segment.toList.filter fun c => !isDropped c)

/-- The path depends on what is kept of the text, which can be a dot segment by then. -/
theorem push_eq (p : Path) (segment : String) :
    p.push segment =
      match kept segment with
      | none => p
      | some cs =>
        if cs = ['.', '.'] then ⟨shorten p.base, ""⟩
        else if cs = ['.'] then ⟨p.base, ""⟩
        else ⟨p.base, String.ofList (Percent.encode Percent.inSegment cs)⟩ := by
  by_cases hdots : segment = "." ∨ segment = ".."
  · simp [push, kept, hdots]
  · simp [push, kept, hdots]

/-! ### Plain names -/

/-- A name that is put at the end of a path as it is. -/
def Plain (s : String) : Prop :=
  s ≠ "." ∧ s ≠ ".." ∧ s ≠ "" ∧
    (s.toList.all fun c => !isDropped c && !Percent.inSegment c) = true

instance : DecidablePred Plain := fun _ => inferInstanceAs (Decidable (_ ∧ _ ∧ _ ∧ _))

theorem base_of_ne_root (h : p ≠ root) : p.base = p.segments := by
  rw [base, if_neg h]

theorem base_eq_segments (h : p.last ≠ "") : p.base = p.segments := by
  refine base_of_ne_root ?_
  rintro rfl
  exact h rfl

theorem push_plain (h : Plain s) : p.push s = ⟨p.base, s⟩ := by
  obtain ⟨hdot, hdots, -, hall⟩ := h
  have hchars : ∀ c ∈ s.toList, isDropped c = false ∧ Percent.inSegment c = false := by
    simpa using hall
  have hkept : kept s = some s.toList := by
    have hfilter : (s.toList.filter fun c => !isDropped c) = s.toList := by
      refine List.filter_eq_self.mpr fun c hc => ?_
      rw [(hchars c hc).1]
      rfl
    simp [kept, hdot, hdots, hfilter]
  have hdoubleDot : s.toList ≠ ['.', '.'] := fun h => hdots (String.toList_inj.mp h)
  have hsingleDot : s.toList ≠ ['.'] := fun h => hdot (String.toList_inj.mp h)
  have hencode := Percent.encode_eq_self fun c hc => (hchars c hc).2
  rw [push_eq, hkept]
  dsimp only
  rw [if_neg hdoubleDot, if_neg hsingleDot, hencode, String.ofList_toList]

theorem base_push_plain (h : Plain s) : (p.push s).base = p.base ++ [s] := by
  rw [push_plain h, base_eq_segments h.2.2.1]
  rfl

theorem base_pushAll (h : ∀ s ∈ names, Plain s) : (p.pushAll names).base = p.base ++ names := by
  induction names generalizing p with
  | nil => rw [List.append_nil]; rfl
  | cons s names ih =>
    rw [List.forall_mem_cons] at h
    show ((p.push s).pushAll names).base = _
    rw [ih h.2, base_push_plain h.1, List.append_assoc]
    rfl

/-- Plain names follow the segments that are there. -/
theorem segments_pushAll (h : ∀ s ∈ names, Plain s) (hne : names ≠ []) :
    (p.pushAll names).segments = p.base ++ names := by
  have hlast : (p.pushAll names).last ≠ "" := by
    obtain ⟨init, last, rfl⟩ : ∃ init last, names = init ++ [last] :=
      ⟨_, _, (List.dropLast_concat_getLast hne).symm⟩
    have hplain : Plain last := h last (List.mem_append_right _ List.mem_cons_self)
    rw [pushAll, List.foldl_append, List.foldl_cons, List.foldl_nil, push_plain hplain]
    exact hplain.2.2.1
  rw [← base_eq_segments hlast, base_pushAll h]

end PasswordGrant.Path
