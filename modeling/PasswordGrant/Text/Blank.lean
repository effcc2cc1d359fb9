/-!
# Blank characters

Which characters count as blank, what it means to trim a text, and how a text falls into words.
The set is the Unicode property White_Space, not the ASCII blanks alone, because scopes, user
names and settings come from people.

* `isBlank` : the property;
* `trim`, `words` : a text without its outer blanks, and its maximal runs of other characters;
* `not_isBlank_of_mem_words` and `ne_nil_of_mem_words` : a word holds no blank and is not empty;
* `words_intercalate` : words with spaces between them are found again;
* `IsTrimmed` : a text without the blanks around it; `isTrimmed_trim` : trimming leaves it.
-/

namespace PasswordGrant.Text

/-- The characters with the Unicode property White_Space. -/
def isBlank (c : Char) : Bool :=
  let n := c.toNat
  (9 ≤ n && n ≤ 13) || n == 0x20 || n == 0x85 || n == 0xA0 || n == 0x1680
    || (0x2000 ≤ n && n ≤ 0x200A) || n == 0x2028 || n == 0x2029 || n == 0x202F
    || n == 0x205F || n == 0x3000

/-- A text without the blanks at its end. -/
def trimEnd (cs : List Char) : List Char := (cs.reverse.dropWhile isBlank).reverse

/-- A text without the blanks at its two ends. -/
def trimChars (cs : List Char) : List Char := trimEnd (cs.dropWhile isBlank)

/-- A text without the blanks at its two ends. -/
def trim (s : String) : String := String.ofList (trimChars s.toList)

def isBlankText (s : String) : Bool := s.toList.all isBlank

/-- The maximal runs of characters that are not blank, in order. -/
def words : List Char → List (List Char)
  | [] => []
  | c :: rest =>
    if isBlank c then words rest
    else match rest with
      | [] => [[c]]
      | d :: _ =>
        if isBlank d then [c] :: words rest
        else match words rest with
          | [] => [[c]]
          | w :: ws => (c :: w) :: ws

/-! ### What a word is -/

/-- No word is empty. -/
theorem ne_nil_of_mem_words (cs : List Char) : ∀ w ∈ words cs, w ≠ [] := by
  fun_induction words cs <;> grind

/-- No word holds a blank. -/
theorem not_isBlank_of_mem_words (cs : List Char) :
    ∀ w ∈ words cs, ∀ c ∈ w, isBlank c = false := by
  fun_induction words cs <;> grind

/-! ### Words put together -/

/-- A word at the beginning ends with the text or at a blank. -/
theorem words_append {w rest : List Char} (hne : w ≠ []) (hw : ∀ c ∈ w, isBlank c = false)
    (hrest : ∀ c ∈ rest.head?, isBlank c = true) : words (w ++ rest) = w :: words rest := by
  induction w with
  | nil => exact absurd rfl hne
  | cons c w ih =>
    have hc : isBlank c = false := hw c List.mem_cons_self
    cases w with
    | nil =>
      -- the word ends here
      cases rest with
      | nil => simp [words, hc]
      | cons d rest =>
        have hd : isBlank d = true := hrest d rfl
        simp [words, hc, hd]
    | cons d w =>
      have hd : isBlank d = false := hw d (List.mem_cons_of_mem c List.mem_cons_self)
      have hmore := ih (List.cons_ne_nil d w) fun x hx => hw x (List.mem_cons_of_mem c hx)
      rw [List.cons_append, words.eq_def]
      simp only [hc, List.cons_append, hd, Bool.false_eq_true, if_false]
      rw [← List.cons_append, hmore]

/-- Words with single spaces between them are the words of the text that they make up. -/
theorem words_intercalate {ws : List (List Char)}
    (h : ∀ w ∈ ws, w ≠ [] ∧ ∀ c ∈ w, isBlank c = false) : words ([' '].intercalate ws) = ws := by
  induction ws with
  | nil => rfl
  | cons w ws ih =>
    obtain ⟨hne, hw⟩ := h w List.mem_cons_self
    have hmore := ih fun x hx => h x (List.mem_cons_of_mem w hx)
    cases ws with
    | nil =>
      have hlast : words (w ++ []) = w :: words [] := words_append hne hw nofun
      rw [List.append_nil] at hlast
      rw [List.intercalate_singleton, hlast, words]
    | cons v ws =>
      have hskip : words (' ' :: [' '].intercalate (v :: ws)) = words ([' '].intercalate (v :: ws)) := by
        rw [words.eq_def]
        rfl
      rw [List.intercalate_cons_cons, List.append_assoc, List.singleton_append,
        words_append hne hw (by simp [isBlank]), hskip, hmore]

/-! ### Blanks around a text -/

/-- A text is what is left of another one without the blanks around it. -/
structure IsTrimmed (trimmed s : String) : Prop where
  around : ∃ front back : List Char, s.toList = front ++ trimmed.toList ++ back ∧
    (∀ c ∈ front, isBlank c = true) ∧ ∀ c ∈ back, isBlank c = true
  first : ∀ c, trimmed.toList.head? = some c → isBlank c = false
  last : ∀ c, trimmed.toList.getLast? = some c → isBlank c = false

theorem not_isBlank_of_head?_dropWhile (cs : List Char) {c : Char}
    (h : (cs.dropWhile isBlank).head? = some c) : isBlank c = false := by
  have hhead := List.head?_dropWhile_not isBlank cs
  rwa [h] at hhead

theorem trimEnd_append (cs : List Char) :
    ∃ back, cs = trimEnd cs ++ back ∧ ∀ c ∈ back, isBlank c = true := by
  refine ⟨(cs.reverse.takeWhile isBlank).reverse, ?_, fun c hc => ?_⟩
  · rw [trimEnd, ← List.reverse_append, List.takeWhile_append_dropWhile, List.reverse_reverse]
  · exact List.all_eq_true.mp List.all_takeWhile c (List.mem_reverse.mp hc)

/-- Trimming takes away the blanks around a text and nothing else. -/
theorem isTrimmed_trim (s : String) : IsTrimmed (trim s) s := by
  obtain ⟨back, hend, hback⟩ := trimEnd_append (s.toList.dropWhile isBlank)
  have htrim : (trim s).toList = trimEnd (s.toList.dropWhile isBlank) := String.toList_ofList
  refine ⟨⟨s.toList.takeWhile isBlank, back, ?_, ?_, hback⟩, fun c hc => ?_, fun c hc => ?_⟩
  · rw [htrim, List.append_assoc, ← hend, List.takeWhile_append_dropWhile]
  · exact List.all_eq_true.mp List.all_takeWhile
  · -- what begins the trimmed text begins the text behind its first blanks
    refine not_isBlank_of_head?_dropWhile s.toList ?_
    rw [htrim] at hc
    rw [hend, List.head?_append, hc]
    rfl
  · refine not_isBlank_of_head?_dropWhile (s.toList.dropWhile isBlank).reverse ?_
    rwa [htrim, trimEnd, List.getLast?_reverse] at hc

/-- Nothing is left of a text exactly if it is blank. -/
theorem IsTrimmed.isEmpty_eq {trimmed s : String} (h : IsTrimmed trimmed s) :
    trimmed.isEmpty = isBlankText s := by
  obtain ⟨front, back, hs, hfront, hback⟩ := h.around
  rw [isBlankText, hs]
  cases htrimmed : trimmed.toList with
  | nil =>
    have hempty : trimmed = "" := String.toList_inj.mp htrimmed
    have hblank : (front ++ [] ++ back).all isBlank = true := by
      rw [List.append_nil, List.all_append, List.all_eq_true.mpr hfront, List.all_eq_true.mpr hback]
      rfl
    rw [hblank, hempty]
    rfl
  | cons c rest =>
    have hc : isBlank c = false := h.first c (by rw [htrimmed]; rfl)
    have hne : trimmed ≠ "" := by
      rintro rfl
      cases htrimmed
    simp [hne, hc]

theorem trim_eq_empty_iff {s : String} : trim s = "" ↔ isBlankText s = true := by
  rw [← (isTrimmed_trim s).isEmpty_eq, String.isEmpty_iff]

theorem isBlankText_eq_false {s : String} {c : Char} (hfirst : s.toList.head? = some c)
    (hc : isBlank c = false) : isBlankText s = false := by
  obtain ⟨rest, hs⟩ := List.head?_eq_some_iff.mp hfirst
  rw [isBlankText, hs, List.all_cons, hc, Bool.false_and]

end PasswordGrant.Text
