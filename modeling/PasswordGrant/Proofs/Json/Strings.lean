import PasswordGrant.Json.Skip
import PasswordGrant.Proofs.Except
import PasswordGrant.Proofs.Json.Written

/-!
# Reading blanks, words and strings

The readers of the smallest parts of a document against what is written. Each of them reads every text
that the grammar allows, up to its end, and reads no other text. The reader of strings refuses nothing
but strings that denote no text, and the one that passes over strings refuses none.

* `skipBlanks_append`, `exists_blanks` : blanks;
* `readWord_eq_ok_iff` : words;
* `readUnit_eq_ok_iff` : units of sixteen bits;
* `skipText_written`, `skipText_sound` : passing over strings;
* `readText_written`, `readText_sound` : strings, and the texts that they denote.
-/

namespace PasswordGrant.Json

open Written

/-! ### Blanks and words -/

theorem skipBlanks_cons_of_isBlank {c : Char} (h : isBlank c) (s : List Char) :
    skipBlanks (c :: s) = skipBlanks s := by
  rw [skipBlanks]
  exact if_pos h

theorem skipBlanks_cons_of_not_isBlank {c : Char} (h : ¬isBlank c) (s : List Char) :
    skipBlanks (c :: s) = c :: s := by
  rw [skipBlanks]
  exact if_neg h

/-- Blanks are dropped. -/
theorem skipBlanks_append (b : Blanks) (s : List Char) : skipBlanks (b.chars ++ s) = skipBlanks s := by
  obtain ⟨cs, hblank⟩ := b
  induction cs with
  | nil => rfl
  | cons c cs ih =>
    rw [List.cons_append, skipBlanks_cons_of_isBlank (hblank c List.mem_cons_self)]
    exact ih fun d hd => hblank d (List.mem_cons_of_mem c hd)

theorem skipBlanks_written (s : List Char) : ∃ b : Blanks, s = b.chars ++ skipBlanks s := by
  induction s with
  | nil => exact ⟨⟨[], nofun⟩, rfl⟩
  | cons c s ih =>
    by_cases hc : isBlank c
    · obtain ⟨b, hb⟩ := ih
      refine ⟨⟨c :: b.chars, fun d hd => ?_⟩, ?_⟩
      · rcases List.mem_cons.mp hd with rfl | hd
        · exact hc
        · exact b.blank d hd
      · rw [skipBlanks_cons_of_isBlank hc, List.cons_append, ← hb]
    · exact ⟨⟨[], nofun⟩, by rw [skipBlanks_cons_of_not_isBlank hc]; rfl⟩

/-- What is behind the blanks of a text is its rest. -/
theorem exists_blanks {s : List Char} {rest : List Char} (h : skipBlanks s = rest) :
    ∃ b : Blanks, s = b.chars ++ rest := h ▸ skipBlanks_written s

/-- Reading a word reads its letters. -/
theorem readWord_eq_ok_iff {word s rest : List Char} :
    readWord word s = .ok rest ↔ s = word ++ rest := by
  induction word generalizing s with
  | nil =>
    rw [readWord, List.nil_append]
    exact ⟨fun h => Except.ok.inj h, fun h => congrArg _ h⟩
  | cons w word ih =>
    cases s with
    | nil => exact ⟨nofun, nofun⟩
    | cons c s =>
      rw [readWord, List.cons_append, List.cons_eq_cons]
      split
      case isTrue hc => rw [ih, and_iff_right hc]
      case isFalse hc => exact ⟨nofun, fun h => absurd h.1 hc⟩

/-! ### Strings -/

theorem escape?_eq_some_iff {c d : Char} : escape? c = some d ↔ (c, d) ∈ escapes := by
  rw [escape?]
  constructor
  · intro h
    split at h
    case isTrue hc => rcases hc with rfl | rfl | rfl <;> cases h <;> decide
    split at h
    case isTrue hc => cases h; subst hc; decide
    split at h
    case isTrue hc => cases h; subst hc; decide
    split at h
    case isTrue hc => cases h; subst hc; decide
    split at h
    case isTrue hc => cases h; subst hc; decide
    split at h
    case isTrue hc => cases h; subst hc; decide
    cases h
  · intro h
    simp only [escapes, List.mem_cons, Prod.mk.injEq, List.not_mem_nil, or_false] at h
    rcases h with ⟨rfl, rfl⟩ | ⟨rfl, rfl⟩ | ⟨rfl, rfl⟩ | ⟨rfl, rfl⟩ | ⟨rfl, rfl⟩ | ⟨rfl, rfl⟩ |
      ⟨rfl, rfl⟩ | ⟨rfl, rfl⟩ <;> rfl

theorem length_le_size (cs : List Char) : cs.length ≤ Utf8.size cs := by
  induction cs with
  | nil => exact Nat.zero_le _
  | cons c cs ih =>
    have hbyte : 1 ≤ (Utf8.encodeChar c).length := by
      rw [Utf8.encodeChar, String.length_utf8EncodeChar]
      exact Char.utf8Size_pos c
    have hsize : Utf8.size (c :: cs) = (Utf8.encodeChar c).length + Utf8.size cs := by
      rw [Utf8.size, Utf8.encode, List.flatMap_cons, List.length_append]
      rfl
    rw [List.length_cons]
    omega

/-- A unit is read from four hexadecimal digits. -/
theorem readUnit_eq_ok_iff {s rest : List Char} {n : Nat} :
    readUnit s = .ok (n, rest) ↔
      ∃ a b c d, s = a :: b :: c :: d :: rest ∧ unit? a b c d = some n := by
  constructor
  · intro h
    by_cases hsize : Utf8.size (s.take 4) < 4
    · simp only [readUnit.eq_def, if_pos hsize] at h
      cases h
    simp only [readUnit.eq_def, if_neg hsize] at h
    split at h
    case h_1 a b c d more =>
      split at h
      case h_1 ha hb hc hd =>
        cases h
        exact ⟨a, b, c, d, rfl, by rw [unit?, ha, hb, hc, hd]; rfl⟩
      case h_2 => cases h
    case h_2 => cases h
  · rintro ⟨a, b, c, d, rfl, hunit⟩
    have hsize : ¬Utf8.size ((a :: b :: c :: d :: rest).take 4) < 4 :=
      Nat.not_lt.mpr (length_le_size [a, b, c, d])
    simp only [unit?, Option.bind_eq_bind, Option.bind_eq_some_iff] at hunit
    obtain ⟨va, ha, vb, hb, vc, hc, vd, hd, hn⟩ := hunit
    cases hn
    rw [readUnit, if_neg hsize]
    simp only [ha, hb, hc, hd]

theorem readUnit_letter {a b c d : Char} {n : Nat} (h : unit? a b c d = some n) (s : List Char) :
    readUnit (a :: b :: c :: d :: s) = .ok (n, s) := readUnit_eq_ok_iff.mpr ⟨a, b, c, d, rfl, h⟩

/-! A letter is one character at least, so a text has no more letters than characters. -/

theorem length_le_lettersChars (ls : List Letter) : ls.length ≤ (lettersChars ls).length := by
  induction ls with
  | nil => exact Nat.le_refl 0
  | cons l ls ih =>
    have hletter : 1 ≤ l.chars.length := by cases l <;> simp [Letter.chars]
    rw [lettersChars, List.flatMap_cons, List.length_append, List.length_cons]
    exact Nat.le_trans (Nat.add_le_add_right ih 1) (by rw [lettersChars]; omega)

section

variable (ls : List Letter) (s : List Char)

theorem lettersChars_plain (c : Char) (h : 0x20 ≤ c.toNat ∧ c ≠ '"' ∧ c ≠ '\\') :
    lettersChars (.plain c h :: ls) ++ s = c :: (lettersChars ls ++ s) := rfl

theorem lettersChars_escaped {c d : Char} (h : (c, d) ∈ escapes) :
    lettersChars (.escaped c d h :: ls) ++ s = '\\' :: c :: (lettersChars ls ++ s) := rfl

theorem lettersChars_unit {a b c d : Char} {n : Nat} (h : unit? a b c d = some n) :
    lettersChars (.unit a b c d n h :: ls) ++ s
      = '\\' :: 'u' :: a :: b :: c :: d :: (lettersChars ls ++ s) := rfl

end

theorem lettersChars_ne_unit {ls : List Letter}
    (hls : ∀ a b c d n h more, ls = .unit a b c d n h :: more → False) (rest s : List Char) :
    lettersChars ls ++ '"' :: rest ≠ '\\' :: 'u' :: s := by
  intro hs
  match ls, hls, hs with
  | [], _, hs => cases hs
  | .plain c h :: _, _, hs => exact h.2.2 (List.cons.inj hs).1
  | .escaped c d h :: _, _, hs =>
    rw [lettersChars_escaped] at hs
    obtain ⟨rfl, -⟩ := List.cons.inj (List.cons.inj hs).2
    cases escape?_eq_some_iff.mpr h
  | .unit a b c d m h :: ls, hls, _ => exact hls a b c d m h ls rfl

/-- Any string is passed over, with one step for each letter. -/
theorem skipTextWithin_written (ls : List Letter) (rest : List Char) {n : Nat} (hn : ls.length < n) :
    skipTextWithin n (lettersChars ls ++ '"' :: rest) = .ok rest := by
  induction ls generalizing n with
  | nil =>
    obtain ⟨n, rfl⟩ := Nat.exists_eq_add_of_lt hn
    rfl
  | cons l ls ih =>
    obtain ⟨n, rfl⟩ : ∃ m, n = m + 1 := ⟨n - 1, by omega⟩
    have hnext := ih (Nat.lt_of_succ_lt_succ hn)
    cases l with
    | plain c h =>
      obtain ⟨hcontrol, hquote, hslash⟩ := h
      rw [lettersChars_plain, skipTextWithin.eq_def]
      simp only [if_neg hquote, if_neg hslash, if_neg (Nat.not_lt.mpr hcontrol)]
      exact hnext
    | escaped c d h =>
      have hescape := escape?_eq_some_iff.mpr h
      have hunit : c ≠ 'u' := by
        rintro rfl
        cases hescape
      rw [lettersChars_escaped, skipTextWithin.eq_def]
      simp only
      rw [if_neg (by decide), if_pos trivial, hescape]
      exact hnext
    | unit a b c d m h =>
      have hunit := readUnit_letter h (lettersChars ls ++ '"' :: rest)
      rw [lettersChars_unit]
      simp only [skipTextWithin, hunit]
      exact hnext

/-- Passing over a string passes over its letters and its closing quote. -/
theorem skipText_written (ls : List Letter) (rest : List Char) :
    skipText (lettersChars ls ++ '"' :: rest) = .ok rest := by
  refine skipTextWithin_written ls rest ?_
  have hletters := length_le_lettersChars ls
  rw [List.length_append]
  omega

/-- Nothing is passed over but strings. -/
theorem skipText_sound {n : Nat} {s rest : List Char} (h : skipTextWithin n s = .ok rest) :
    ∃ ls, s = lettersChars ls ++ '"' :: rest := by
  induction n generalizing s with
  | zero => cases h
  | succ n ih =>
    cases s with
    | nil => cases h
    | cons c s =>
      rw [skipTextWithin.eq_def] at h
      simp only at h
      split at h
      case isTrue hc =>
        cases h
        exact ⟨[], by rw [hc]; rfl⟩
      case isFalse hquote =>
      split at h
      case isTrue hslash =>
        subst hslash
        split at h
        · cases h
        · obtain ⟨⟨m, s'⟩, hunit, hmore⟩ := bind_eq_ok.mp h
          obtain ⟨a, b, c, d, rfl, hvalue⟩ := readUnit_eq_ok_iff.mp hunit
          obtain ⟨ls, rfl⟩ := ih hmore
          exact ⟨.unit a b c d m hvalue :: ls, rfl⟩
        · split at h
          case _ hescape =>
            obtain ⟨ls, rfl⟩ := ih h
            exact ⟨.escaped _ _ (escape?_eq_some_iff.mp hescape) :: ls, rfl⟩
          · cases h
      case isFalse hslash =>
      split at h
      · cases h
      case isFalse hcontrol =>
        obtain ⟨ls, rfl⟩ := ih h
        exact ⟨.plain c ⟨Nat.not_lt.mp hcontrol, hquote, hslash⟩ :: ls, rfl⟩

theorem readUnicode_unit {s rest : List Char} {n : Nat} (hunit : readUnit s = .ok (n, rest))
    (hlow : isLow n = false) (hhigh : isHigh n = false) :
    (readUnicode s).toOption = some (Char.ofNat n, rest) := by
  rw [readUnicode, hunit]
  simp only [bind, Except.bind, hlow, hhigh, Bool.false_eq_true, if_false]
  rfl

theorem readUnicode_low {s rest : List Char} {n : Nat} (hunit : readUnit s = .ok (n, rest))
    (hlow : isLow n = true) : (readUnicode s).toOption = none := by
  rw [readUnicode, hunit]
  simp only [bind, Except.bind, hlow, if_true]
  rfl

theorem readUnicode_pair {s s' rest : List Char} {n m : Nat}
    (hhigh : readUnit s = .ok (n, '\\' :: 'u' :: s')) (hn : isLow n = false) (hn' : isHigh n = true)
    (hlow : readUnit s' = .ok (m, rest)) :
    (readUnicode s).toOption = if isLow m then
      some (Char.ofNat ((n - 0xD800) * 1024 + (m - 0xDC00) + 0x10000), rest) else none := by
  rw [readUnicode, hhigh]
  simp only [bind, Except.bind, hn, hn', hlow, Bool.false_eq_true, if_false, if_true]
  split
  · rfl
  · rfl

theorem readUnicode_high {s s' : List Char} {n : Nat} (hhigh : readUnit s = .ok (n, s'))
    (hn : isLow n = false) (hn' : isHigh n = true) (hs' : ∀ s'', s' ≠ '\\' :: 'u' :: s'') :
    (readUnicode s).toOption = none := by
  rw [readUnicode, hhigh]
  simp only [bind, Except.bind, hn, hn', Bool.false_eq_true, if_false, if_true]
  split
  · rfl
  · exact absurd rfl (hs' _)
  · rfl
  · rfl
  · rfl

/-- What is read behind `\u` is one unit or two. -/
theorem readUnicode_sound {s rest : List Char} {d : Char} (h : readUnicode s = .ok (d, rest)) :
    ∃ ls, '\\' :: 'u' :: s = lettersChars ls ++ rest := by
  rw [readUnicode] at h
  obtain ⟨⟨n, s'⟩, hunit, hrest⟩ := bind_eq_ok.mp h
  obtain ⟨a, b, c, d, rfl, hvalue⟩ := readUnit_eq_ok_iff.mp hunit
  simp only at hrest
  split at hrest
  · cases hrest
  split at hrest
  · split at hrest
    case h_2 s'' =>
      obtain ⟨⟨m, s'''⟩, hlow, hpair⟩ := bind_eq_ok.mp hrest
      obtain ⟨a', b', c', d', rfl, hvalue'⟩ := readUnit_eq_ok_iff.mp hlow
      simp only at hpair
      split at hpair
      · rw [Except.ok.injEq, Prod.mk.injEq] at hpair
        obtain ⟨-, rfl⟩ := hpair
        exact ⟨[.unit a b c d n hvalue, .unit a' b' c' d' m hvalue'], rfl⟩
      · cases hpair
    all_goals cases hrest
  · cases hrest
    exact ⟨[.unit a b c d n hvalue], rfl⟩

theorem readEscape_sound {s rest : List Char} {d : Char} (h : readEscape s = .ok (d, rest)) :
    ∃ ls, '\\' :: s = lettersChars ls ++ rest := by
  rw [readEscape.eq_def] at h
  split at h
  · cases h
  · exact readUnicode_sound h
  · split at h
    case _ hescape =>
      cases h
      exact ⟨[.escaped _ _ (escape?_eq_some_iff.mp hescape)], rfl⟩
    · cases h

theorem readEscape_of_escape? {c d : Char} (h : escape? c = some d) (s : List Char) :
    readEscape (c :: s) = .ok (d, s) := by
  have hunit : c ≠ 'u' := by
    rintro rfl
    cases h
  rw [readEscape.eq_def]
  split
  · contradiction
  · rename_i heq
    exact absurd (List.cons.inj heq).1 hunit
  · rename_i heq
    obtain ⟨rfl, rfl⟩ := List.cons.inj heq
    rw [h]

theorem lettersChars_append (ls ms : List Letter) :
    lettersChars (ls ++ ms) = lettersChars ls ++ lettersChars ms := List.flatMap_append

/-- Nothing is read as a string but strings. -/
theorem readTextWithin_sound {n : Nat} {s rest : List Char} {cs : List Char}
    (h : readTextWithin n s = .ok (cs, rest)) : ∃ ls, s = lettersChars ls ++ '"' :: rest := by
  induction n generalizing s cs with
  | zero => cases h
  | succ n ih =>
    cases s with
    | nil => cases h
    | cons c s =>
      rw [readTextWithin.eq_def] at h
      simp only at h
      split at h
      case isTrue hc =>
        cases h
        exact ⟨[], by rw [hc]; rfl⟩
      case isFalse hquote =>
      split at h
      case isTrue hslash =>
        obtain ⟨⟨d, s'⟩, hescape, h⟩ := bind_eq_ok.mp h
        obtain ⟨⟨more, s''⟩, hmore, h⟩ := bind_eq_ok.mp h
        cases h
        obtain ⟨ls, hls⟩ := readEscape_sound hescape
        obtain ⟨ms, rfl⟩ := ih hmore
        exact ⟨ls ++ ms, by rw [hslash, hls, lettersChars_append, List.append_assoc]⟩
      case isFalse hslash =>
      split at h
      · cases h
      case isFalse hcontrol =>
        obtain ⟨⟨more, s'⟩, hmore, h⟩ := bind_eq_ok.mp h
        cases h
        obtain ⟨ls, rfl⟩ := ih hmore
        exact ⟨.plain c ⟨Nat.not_lt.mp hcontrol, hquote, hslash⟩ :: ls, rfl⟩

theorem readTextWithin_escape (n : Nat) (s : List Char) :
    (readTextWithin (n + 1) ('\\' :: s)).toOption
      = (readEscape s).toOption.bind fun r =>
          (readTextWithin n r.2).toOption.map fun t => (r.1 :: t.1, t.2) := by
  rw [readTextWithin.eq_def]
  simp only
  rw [if_neg (by decide), if_pos trivial, toOption_bind]
  congr 1
  funext r
  rw [toOption_bind]
  cases readTextWithin n r.2 <;> rfl

theorem readTextWithin_unit (n : Nat) (s : List Char) :
    (readTextWithin (n + 1) ('\\' :: 'u' :: s)).toOption
      = (readUnicode s).toOption.bind fun r =>
          (readTextWithin n r.2).toOption.map fun t => (r.1 :: t.1, t.2) :=
  readTextWithin_escape n ('u' :: s)

/-- A string is read as the characters that it denotes, if it denotes any. -/
theorem readTextWithin_written (ls : List Letter) (rest : List Char) {n : Nat} (hn : ls.length < n) :
    (readTextWithin n (lettersChars ls ++ '"' :: rest)).toOption
      = (denoted? ls).map (·, rest) := by
  induction ls using denoted?.induct generalizing n with
  | case1 =>
    obtain ⟨n, rfl⟩ := Nat.exists_eq_add_of_lt hn
    rfl
  | case2 c h ls ih =>
    obtain ⟨n, rfl⟩ : ∃ m, n = m + 1 := ⟨n - 1, by omega⟩
    obtain ⟨hcontrol, hquote, hslash⟩ := h
    have hmore := ih (Nat.lt_of_succ_lt_succ hn)
    rw [lettersChars_plain, denoted?, Option.map_map,
      readTextWithin.eq_def]
    simp only [if_neg hquote, if_neg hslash, if_neg (Nat.not_lt.mpr hcontrol)]
    rw [toOption_bind, hmore]
    cases denoted? ls <;> rfl
  | case3 c d h ls ih =>
    obtain ⟨n, rfl⟩ : ∃ m, n = m + 1 := ⟨n - 1, by omega⟩
    have hmore := ih (Nat.lt_of_succ_lt_succ hn)
    have hescape : (readEscape (c :: (lettersChars ls ++ '"' :: rest))).toOption
        = some (d, lettersChars ls ++ '"' :: rest) := by
      rw [readEscape_of_escape? (escape?_eq_some_iff.mpr h)]
      rfl
    rw [lettersChars_escaped, denoted?,
      readTextWithin_escape, hescape, Option.bind_some, hmore]
    cases denoted? ls <;> rfl
  | case4 a b c d m h ls hlow =>
    -- the second half of a pair, where there is no first one
    obtain ⟨n, rfl⟩ : ∃ m, n = m + 1 := ⟨n - 1, by omega⟩
    have hunit := readUnit_letter h (lettersChars ls ++ '"' :: rest)
    rw [denoted?.eq_def, lettersChars_unit]
    simp only [if_pos hlow]
    rw [readTextWithin_unit, readUnicode_low hunit hlow]
    rfl
  | case5 a b c d m h hlow hhigh a' b' c' d' m' h' ls hlow' ih =>
    -- both halves of a pair
    obtain ⟨n, rfl⟩ : ∃ m, n = m + 1 := ⟨n - 1, by omega⟩
    have hunit := readUnit_letter h (lettersChars (.unit a' b' c' d' m' h' :: ls) ++ '"' :: rest)
    have hunit' := readUnit_letter h' (lettersChars ls ++ '"' :: rest)
    have hmore := ih (n := n) (by rw [List.length_cons, List.length_cons] at hn; omega)
    rw [denoted?.eq_def, lettersChars_unit]
    simp only [if_neg hlow, if_pos hhigh, if_pos hlow']
    rw [readTextWithin_unit, readUnicode_pair hunit (by simpa using hlow) hhigh hunit', if_pos hlow',
      Option.bind_some, hmore]
    generalize Char.ofNat ((m - 0xD800) * 1024 + (m' - 0xDC00) + 0x10000) = pair
    cases denoted? ls <;> rfl
  | case6 a b c d m h hlow hhigh a' b' c' d' m' h' ls hlow' =>
    -- the first half of a pair, and a unit that is not the second one
    obtain ⟨n, rfl⟩ : ∃ m, n = m + 1 := ⟨n - 1, by omega⟩
    have hunit := readUnit_letter h (lettersChars (.unit a' b' c' d' m' h' :: ls) ++ '"' :: rest)
    have hunit' := readUnit_letter h' (lettersChars ls ++ '"' :: rest)
    rw [denoted?.eq_def, lettersChars_unit]
    simp only [if_neg hlow, if_pos hhigh, if_neg hlow']
    rw [readTextWithin_unit, readUnicode_pair hunit (by simpa using hlow) hhigh hunit', if_neg hlow']
    rfl
  | case7 a b c d m h ls hlow hhigh hother =>
    -- the first half of a pair, and no unit
    obtain ⟨n, rfl⟩ : ∃ m, n = m + 1 := ⟨n - 1, by omega⟩
    have hunit := readUnit_letter h (lettersChars ls ++ '"' :: rest)
    rw [denoted?.eq_def, lettersChars_unit]
    simp only [if_neg hlow, if_pos hhigh]
    rw [readTextWithin_unit, readUnicode_high hunit (by simpa using hlow) hhigh
      (lettersChars_ne_unit hother rest)]
    cases ls with
    | nil => rfl
    | cons l ls => cases l <;> rfl
  | case8 a b c d m h ls hlow hhigh ih =>
    obtain ⟨n, rfl⟩ : ∃ m, n = m + 1 := ⟨n - 1, by omega⟩
    have hunit := readUnit_letter h (lettersChars ls ++ '"' :: rest)
    have hmore := ih (Nat.lt_of_succ_lt_succ hn)
    rw [denoted?.eq_def, lettersChars_unit]
    simp only [if_neg hlow, if_neg hhigh]
    rw [readTextWithin_unit, readUnicode_unit hunit (by simpa using hlow) (by simpa using hhigh),
      Option.bind_some, hmore]
    cases denoted? ls <;> rfl

/-- A string is read as the text that it denotes, if it denotes one. -/
theorem readText_written (ls : List Letter) (rest : List Char) :
    (readText (lettersChars ls ++ '"' :: rest)).toOption = (denotedText? ls).map (·, rest) := by
  have hletters : ls.length < (lettersChars ls ++ '"' :: rest).length + 1 := by
    have := length_le_lettersChars ls
    rw [List.length_append]
    omega
  rw [readText, toOption_bind, readTextWithin_written ls rest hletters, denotedText?]
  cases denoted? ls <;> rfl

/-- Nothing is read as a text but a string that denotes it. -/
theorem readText_sound {s rest : List Char} {t : String} (h : readText s = .ok (t, rest)) :
    ∃ ls, s = lettersChars ls ++ '"' :: rest ∧ denotedText? ls = some t := by
  obtain ⟨⟨cs, rest'⟩, hread, hrest⟩ := bind_eq_ok.mp h
  cases hrest
  obtain ⟨ls, rfl⟩ := readTextWithin_sound hread
  refine ⟨ls, rfl, ?_⟩
  have hwritten := readText_written ls rest
  rw [h] at hwritten
  obtain ⟨t', ht', heq⟩ := Option.map_eq_some_iff.mp hwritten.symm
  cases heq
  exact ht'

end PasswordGrant.Json
