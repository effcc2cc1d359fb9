import Mathlib.Algebra.Group.Nat.Defs
import PasswordGrant.Settings.Basic

/-!
# Whole numbers as they are written

A whole number that was read from a text is written again without a plus sign and without needless
zeros. So the text comes back exactly if it has neither, and is not a zero with a minus sign.

* `Numeral.toDigits_eq_iff` : digits come back if there is no zero before others;
* `Numeral.isCanonical` : the texts of whole numbers that come back;
* `Numeral.integerText_eq_iff` : no other whole numbers do.
-/

namespace PasswordGrant.Numeral

/-- The value of digits behind others. -/
def valueAfter (acc : Nat) (cs : List Char) : Nat :=
  cs.foldl (fun acc c => acc * 10 + (c.toNat - 48)) acc

theorem digitChar_eq {c : Char} (h : c.isDigit = true) :
    c.toNat - 48 < 10 ∧ Nat.digitChar (c.toNat - 48) = c := by
  have hrange : 48 ≤ c.toNat ∧ c.toNat ≤ 57 := by
    simp only [Char.isDigit, Bool.and_eq_true, decide_eq_true_eq] at h
    exact h
  have hlt : c.toNat - 48 < 10 := by omega
  refine ⟨hlt, Char.toNat_inj.mp ?_⟩
  rw [Nat.toNat_digitChar_of_lt_ten hlt]
  omega

theorem toDigits_valueAfter {cs : List Char} (h : ∀ c ∈ cs, c.isDigit = true) {acc : Nat}
    (hacc : 0 < acc) : Nat.toDigits 10 (valueAfter acc cs) = Nat.toDigits 10 acc ++ cs := by
  induction cs generalizing acc with
  | nil => rw [valueAfter, List.foldl_nil, List.append_nil]
  | cons c cs ih =>
    rw [List.forall_mem_cons] at h
    obtain ⟨hlt, hchar⟩ := digitChar_eq h.1
    have hstep : valueAfter acc (c :: cs) = valueAfter (10 * acc + (c.toNat - 48)) cs := by
      rw [valueAfter, List.foldl_cons, Nat.mul_comm acc 10]
      rfl
    have hdigit := Nat.toDigits_append_toDigits (b := 10) (by decide) hacc hlt
    rw [Nat.toDigits_of_lt_base hlt, hchar] at hdigit
    rw [hstep, ih h.2 (by omega), ← hdigit, List.append_assoc, List.singleton_append]

theorem valueAfter_lt {cs : List Char} (h : ∀ c ∈ cs, c.isDigit = true) (acc : Nat) :
    valueAfter acc cs < (acc + 1) * 10 ^ cs.length := by
  induction cs generalizing acc with
  | nil => rw [valueAfter, List.foldl_nil, List.length_nil]; omega
  | cons c cs ih =>
    rw [List.forall_mem_cons] at h
    have hlt := (digitChar_eq h.1).1
    have hle : acc * 10 + (c.toNat - 48) + 1 ≤ (acc + 1) * 10 := by omega
    calc valueAfter acc (c :: cs)
        < (acc * 10 + (c.toNat - 48) + 1) * 10 ^ cs.length := ih h.2 _
      _ ≤ (acc + 1) * 10 * 10 ^ cs.length := Nat.mul_le_mul_right _ hle
      _ = (acc + 1) * 10 ^ (c :: cs).length := by
        rw [List.length_cons, Nat.pow_succ, Nat.mul_assoc, Nat.mul_comm 10]

theorem digits?_eq_some {cs : List Char} {n : Nat} (h : digits? cs = some n) :
    cs ≠ [] ∧ (∀ c ∈ cs, c.isDigit = true) ∧ n = valueAfter 0 cs := by
  rw [digits?] at h
  split at h
  · cases h
  · rename_i hcs
    rw [Bool.or_eq_true, not_or, Bool.not_eq_true', Bool.not_eq_false, List.isEmpty_iff,
      List.all_eq_true] at hcs
    cases h
    exact ⟨hcs.1, hcs.2, rfl⟩

/-- Digits without a needless zero. -/
def isTight : List Char → Bool
  | '0' :: rest => rest.isEmpty
  | _ => true

/-- Digits come back if there is no needless zero among them. -/
theorem toDigits_eq_iff {cs : List Char} {n : Nat} (h : digits? cs = some n) :
    Nat.toDigits 10 n = cs ↔ isTight cs = true := by
  obtain ⟨hne, hdigits, rfl⟩ := digits?_eq_some h
  obtain ⟨c, rest, rfl⟩ := List.exists_cons_of_ne_nil hne
  rw [List.forall_mem_cons] at hdigits
  by_cases hzero : c = '0'
  · subst hzero
    have hvalue : valueAfter 0 ('0' :: rest) = valueAfter 0 rest := rfl
    rw [hvalue, isTight, List.isEmpty_iff]
    constructor
    · intro hback
      cases rest with
      | nil => rfl
      | cons d more =>
        -- the value of the other digits alone needs no more digits than they are
        have hbound : valueAfter 0 (d :: more) < 10 ^ (d :: more).length := by
          simpa using valueAfter_lt hdigits.2 0
        have hlength := (Nat.length_toDigits_le_iff (by decide) (Nat.succ_pos _)).mpr hbound
        rw [hback] at hlength
        simp only [List.length_cons] at hlength
        omega
    · rintro rfl
      exact Nat.toDigits_zero 10
  · have htight : isTight (c :: rest) = true := by
      unfold isTight
      split
      · simp_all
      · rfl
    obtain ⟨hlt, hchar⟩ := digitChar_eq hdigits.1
    have hpos : 0 < c.toNat - 48 := by
      rcases Nat.eq_zero_or_pos (c.toNat - 48) with h0 | hpos
      · rw [h0] at hchar
        exact absurd hchar.symm hzero
      · exact hpos
    have hstep : valueAfter 0 (c :: rest) = valueAfter (c.toNat - 48) rest := by
      rw [valueAfter, List.foldl_cons, Nat.zero_mul, Nat.zero_add]
      rfl
    rw [hstep, toDigits_valueAfter hdigits.2 hpos, Nat.toDigits_of_lt_base hlt, hchar]
    exact ⟨fun _ => htight, fun _ => rfl⟩

/-- The text of a whole number that comes back: no plus sign, no needless zero, no negative zero. -/
def isCanonical : List Char → Bool
  | '+' :: _ => false
  | '-' :: rest => isTight rest && rest != ['0']
  | cs => isTight cs

theorem toList_integerText_neg (n : Nat) :
    (RawScalar.integerText (-n)).toList
      = if n = 0 then ['0'] else '-' :: Nat.toDigits 10 n := by
  rw [RawScalar.integerText, String.toList_append, Nat.toList_repr, Int.natAbs_neg, Int.natAbs_natCast]
  by_cases hn : n = 0
  · subst hn
    rfl
  · rw [if_neg hn, if_pos (by omega)]
    rfl

theorem toList_integerText (n : Nat) :
    (RawScalar.integerText n).toList = Nat.toDigits 10 n := by
  rw [RawScalar.integerText, String.toList_append, Nat.toList_repr, Int.natAbs_natCast,
    if_neg (by omega)]
  rfl

theorem toDigits_ne_cons {n : Nat} {c : Char} {cs : List Char} (h : c.isDigit = false) :
    Nat.toDigits 10 n ≠ c :: cs := by
  intro heq
  have hc : c ∈ Nat.toDigits 10 n := by
    rw [heq]
    exact List.mem_cons_self
  rw [Nat.isDigit_of_mem_toDigits (by decide) (by decide) hc] at h
  cases h

theorem sign_cases (cs : List Char) :
    (∃ rest, cs = '+' :: rest ∧ sign cs = (false, rest)) ∨
    (∃ rest, cs = '-' :: rest ∧ sign cs = (true, rest)) ∨
    (isCanonical cs = isTight cs ∧ sign cs = (false, cs)) := by
  unfold sign
  split
  · exact .inl ⟨_, rfl, rfl⟩
  · exact .inr (.inl ⟨_, rfl, rfl⟩)
  · rename_i hplus hminus
    refine .inr (.inr ⟨?_, rfl⟩)
    rw [isCanonical]
    · exact hplus
    · exact hminus

theorem toList_integerText_neg_eq_iff {rest : List Char} {n : Nat} (h : digits? rest = some n) :
    (RawScalar.integerText (-n)).toList = '-' :: rest ↔ isCanonical ('-' :: rest) = true := by
  rw [toList_integerText_neg, isCanonical, Bool.and_eq_true, bne_iff_ne]
  by_cases hzero : n = 0
  · subst hzero
    have htight := toDigits_eq_iff h
    rw [Nat.toDigits_zero] at htight
    rw [if_pos rfl, ← htight]
    constructor
    · intro heq
      cases heq
    · rintro ⟨heq, hne⟩
      exact absurd heq.symm hne
  · rw [if_neg hzero, List.cons.injEq, toDigits_eq_iff h]
    refine ⟨fun heq => ⟨heq.2, ?_⟩, fun h => ⟨rfl, h.1⟩⟩
    rintro rfl
    exact hzero (Option.some.inj h).symm

/-- A whole number that is read is written again as it was exactly if it was written in the one way
that has neither a plus sign nor a needless zero. -/
theorem integerText_eq_iff {text : String} {i : Int} (h : integer? text = some i) :
    RawScalar.integerText i = text ↔ isCanonical text.toList = true := by
  rw [← String.toList_inj]
  rw [integer?] at h
  generalize text.toList = cs at h ⊢
  rcases sign_cases cs with ⟨rest, rfl, hsign⟩ | ⟨rest, rfl, hsign⟩ | ⟨hunsigned, hsign⟩
  · rw [hsign] at h
    obtain ⟨n, -, hn⟩ := Option.bind_eq_some_iff.mp h
    simp only [Bool.false_eq_true, if_false, Option.ite_none_right_eq_some, Option.some.injEq] at hn
    rw [← hn.2, toList_integerText]
    exact ⟨fun heq => absurd heq (toDigits_ne_cons (by decide)), fun hfalse => by cases hfalse⟩
  · rw [hsign] at h
    obtain ⟨n, hdigits, hn⟩ := Option.bind_eq_some_iff.mp h
    simp only [if_true, Option.ite_none_right_eq_some, Option.some.injEq] at hn
    rw [← hn.2, toList_integerText_neg_eq_iff hdigits]
  · rw [hsign] at h
    obtain ⟨n, hdigits, hn⟩ := Option.bind_eq_some_iff.mp h
    simp only [Bool.false_eq_true, if_false, Option.ite_none_right_eq_some, Option.some.injEq] at hn
    rw [← hn.2, toList_integerText, hunsigned, toDigits_eq_iff hdigits]

end PasswordGrant.Numeral
