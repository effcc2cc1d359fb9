import PasswordGrant.Proofs.Json.Strings

/-!
# Reading numbers

A number ends where the text does not go on with it. Passing over a number finds that end, and so does
reading one; what is read is the number itself if it is whole and within 64 bits, and a binary number
otherwise.

* `Stops` : a text that does not go on with a number;
* `skipNumber_eq_ok_iff` : the numbers that are passed over;
* `skipNumber_of_readNumber` : a number that is read is one that is passed over;
* `readNumber_kept`, `readNumber_not_kept` : the values of numbers.
-/

namespace PasswordGrant.Json

open Written

/-! ### Numbers -/

/-- A text that does not begin with a digit. -/
def NoDigit (s : List Char) : Prop := ∀ c ∈ s.head?, isDigit c = false

theorem noDigit_nil : NoDigit [] := by
  intro c hc
  cases hc

theorem dropWhile_digits {ds s : List Char} (hds : ∀ c ∈ ds, isDigit c = true) (hs : NoDigit s) :
    (ds ++ s).dropWhile isDigit = s := by
  rw [List.dropWhile_append_of_pos hds]
  cases s with
  | nil => rfl
  | cons c s => rw [List.dropWhile_cons_of_neg (by rw [hs c rfl]; exact Bool.false_ne_true)]

theorem takeWhile_digits {ds s : List Char} (hds : ∀ c ∈ ds, isDigit c = true) (hs : NoDigit s) :
    (ds ++ s).takeWhile isDigit = ds := by
  rw [List.takeWhile_append_of_pos hds]
  cases s with
  | nil => exact List.append_nil ds
  | cons c s =>
    rw [List.takeWhile_cons_of_neg (by rw [hs c rfl]; exact Bool.false_ne_true), List.append_nil]

theorem noDigit_dropWhile (s : List Char) : NoDigit (s.dropWhile isDigit) := by
  intro c hc
  have hhead := List.head?_dropWhile_not isDigit s
  rw [hc] at hhead
  exact hhead

theorem isDigit_of_mem (d : Digits) : ∀ c ∈ d.chars, isDigit c = true := by
  intro c hc
  rcases List.mem_cons.mp hc with rfl | hc
  · exact d.first_isDigit
  · exact d.more_isDigit c hc

theorem exists_digits {c : Char} (hc : isDigit c = true) (s : List Char) :
    ∃ d : Digits, d.first = c ∧ d.more = s.takeWhile isDigit ∧
      c :: s = d.chars ++ s.dropWhile isDigit :=
  ⟨⟨c, s.takeWhile isDigit, hc, List.all_eq_true.mp List.all_takeWhile⟩, rfl, rfl, by
    rw [Digits.chars, List.cons_append, List.takeWhile_append_dropWhile]⟩

/-- A number with this fraction and this exponent is not longer than it is: the text that follows
would not belong to it. -/
structure Stops (fraction : Option Digits) (exponent : Option Exponent) (s : List Char) : Prop where
  digit : NoDigit s
  letter : exponent = none → ∀ c ∈ s.head?, c ≠ 'e' ∧ c ≠ 'E'
  point : exponent = none → fraction = none → ∀ c ∈ s.head?, c ≠ '.'

/-- Passes over digits, of which there must be one. -/
def skipDigits : List Char → Option (List Char)
  | [] => none
  | c :: rest => if isDigit c then some (rest.dropWhile isDigit) else none

def withoutSign : List Char → List Char
  | '+' :: rest => rest
  | '-' :: rest => rest
  | rest => rest

theorem skipDigits_eq_some_iff {s rest : List Char} :
    skipDigits s = some rest ↔ NoDigit rest ∧ ∃ d : Digits, s = d.chars ++ rest := by
  constructor
  · intro h
    cases s with
    | nil => cases h
    | cons c s =>
      rw [skipDigits] at h
      split at h
      case isTrue hc =>
        cases h
        obtain ⟨d, -, -, hd⟩ := exists_digits hc s
        exact ⟨noDigit_dropWhile s, d, hd⟩
      case isFalse => cases h
  · rintro ⟨hrest, d, rfl⟩
    rw [Digits.chars, List.cons_append, skipDigits, if_pos d.first_isDigit,
      dropWhile_digits d.more_isDigit hrest]

theorem withoutSign_append (sign : Option Bool) (d : Digits) (rest : List Char) :
    withoutSign (signChars sign ++ (d.chars ++ rest)) = d.chars ++ rest := by
  match sign with
  | some true => rfl
  | some false => rfl
  | none =>
    have hfirst := d.first_isDigit
    rw [signChars, List.nil_append, Digits.chars, List.cons_append, withoutSign.eq_def]
    split
    · rename_i heq
      rw [(List.cons.inj heq).1] at hfirst
      cases hfirst
    · rename_i heq
      rw [(List.cons.inj heq).1] at hfirst
      cases hfirst
    · rfl

theorem exists_sign (s : List Char) : ∃ sign, s = signChars sign ++ withoutSign s := by
  rw [withoutSign.eq_def]
  split
  · exact ⟨some false, rfl⟩
  · exact ⟨some true, rfl⟩
  · exact ⟨none, rfl⟩

theorem toOption_skipExponent (s : List Char) :
    (skipExponent s).toOption = skipDigits (withoutSign s) := by
  have hdigits : ∀ s : List Char, (match s with
      | [] => Except.error (Fault.here .badNumber [])
      | c :: rest =>
        if isDigit c then .ok (rest.dropWhile isDigit) else .error (.next .badNumber s)).toOption
      = skipDigits s := by
    intro s
    cases s with
    | nil => rfl
    | cons c s =>
      simp only [skipDigits]
      split <;> rfl
  exact hdigits (withoutSign s)

theorem skipExponent_eq_ok_iff {s rest : List Char} :
    skipExponent s = .ok rest ↔
      NoDigit rest ∧ ∃ (sign : Option Bool) (d : Digits), s = signChars sign ++ (d.chars ++ rest) := by
  rw [← toOption_eq_some_iff, toOption_skipExponent, skipDigits_eq_some_iff]
  refine and_congr_right fun _ => ⟨?_, ?_⟩
  · rintro ⟨d, hd⟩
    obtain ⟨sign, hsign⟩ := exists_sign s
    exact ⟨sign, d, by rw [← hd, ← hsign]⟩
  · rintro ⟨sign, d, rfl⟩
    exact ⟨d, withoutSign_append sign d rest⟩

theorem noDigit_exponent {e : Option Exponent} {rest : List Char} (h : NoDigit rest) :
    NoDigit (exponentChars e ++ rest) := by
  match e with
  | none => exact h
  | some ⟨true, _, _⟩ =>
    rintro c hc
    cases hc
    rfl
  | some ⟨false, _, _⟩ =>
    rintro c hc
    cases hc
    rfl

/-- Passes over an exponent with its letter, if there is one. -/
def skipPower : List Char → Except Fault (List Char)
  | 'e' :: rest => skipExponent rest
  | 'E' :: rest => skipExponent rest
  | rest => .ok rest

theorem skipPower_eq_ok_iff {s rest : List Char} (hs : NoDigit s) :
    skipPower s = .ok rest ↔ ∃ e, s = exponentChars e ++ rest ∧ NoDigit rest ∧
      (e = none → ∀ c ∈ rest.head?, c ≠ 'e' ∧ c ≠ 'E') := by
  constructor
  · intro h
    rw [skipPower.eq_def] at h
    split at h
    · obtain ⟨hrest, sign, d, rfl⟩ := skipExponent_eq_ok_iff.mp h
      exact ⟨some ⟨false, sign, d⟩, by simp [exponentChars, Exponent.chars], hrest, nofun⟩
    · obtain ⟨hrest, sign, d, rfl⟩ := skipExponent_eq_ok_iff.mp h
      exact ⟨some ⟨true, sign, d⟩, by simp [exponentChars, Exponent.chars], hrest, nofun⟩
    · rename_i hlower hupper
      cases h
      refine ⟨none, rfl, hs, fun _ c hc => ⟨?_, ?_⟩⟩
      · rintro rfl
        obtain ⟨tail, rfl⟩ := List.head?_eq_some_iff.mp hc
        exact hlower tail rfl
      · rintro rfl
        obtain ⟨tail, rfl⟩ := List.head?_eq_some_iff.mp hc
        exact hupper tail rfl
  · rintro ⟨e, rfl, hrest, hletter⟩
    match e, hletter with
    | some ⟨true, sign, d⟩, _ =>
      have h : skipExponent (signChars sign ++ (d.chars ++ rest)) = .ok rest :=
        skipExponent_eq_ok_iff.mpr ⟨hrest, sign, d, rfl⟩
      simpa [exponentChars, Exponent.chars, skipPower] using h
    | some ⟨false, sign, d⟩, _ =>
      have h : skipExponent (signChars sign ++ (d.chars ++ rest)) = .ok rest :=
        skipExponent_eq_ok_iff.mpr ⟨hrest, sign, d, rfl⟩
      simpa [exponentChars, Exponent.chars, skipPower] using h
    | none, hletter =>
      rw [exponentChars, List.nil_append, skipPower.eq_def]
      split
      · exact absurd rfl (hletter rfl 'e' rfl).1
      · exact absurd rfl (hletter rfl 'E' rfl).2
      · rfl

theorem toOption_skipTail_point (s : List Char) :
    (skipTail ('.' :: s)).toOption = (skipDigits s).bind fun rest => (skipPower rest).toOption := by
  cases s with
  | nil => rfl
  | cons c s =>
    simp only [skipTail, skipDigits]
    split
    case isTrue hc =>
      rw [List.dropWhile_cons_of_pos hc]
      rfl
    case isFalse => rfl

theorem skipTail_eq_skipPower {s : List Char} (hs : ∀ c ∈ s.head?, c ≠ '.') :
    skipTail s = skipPower s := by
  rw [skipTail.eq_def]
  split
  · exact absurd rfl (hs '.' rfl)
  · rfl
  · rfl
  · rename_i hlower hupper
    rw [skipPower.eq_def]
    split
    · exact absurd rfl (hlower _)
    · exact absurd rfl (hupper _)
    · rfl

/-- What may follow the whole digits of a number is passed over. -/
theorem skipTail_eq_ok_iff {s rest : List Char} (hs : NoDigit s) :
    skipTail s = .ok rest ↔
      ∃ f e, s = fractionChars f ++ (exponentChars e ++ rest) ∧ Stops f e rest := by
  constructor
  · intro h
    by_cases hpoint : ∃ more, s = '.' :: more
    · obtain ⟨more, rfl⟩ := hpoint
      rw [← toOption_eq_some_iff, toOption_skipTail_point, Option.bind_eq_some_iff] at h
      obtain ⟨tail, hdigits, hpower⟩ := h
      obtain ⟨htail, d, rfl⟩ := skipDigits_eq_some_iff.mp hdigits
      obtain ⟨e, rfl, hdigit, hletter⟩ :=
        (skipPower_eq_ok_iff htail).mp (toOption_eq_some_iff.mp hpower)
      exact ⟨some d, e, rfl, hdigit, hletter, nofun⟩
    · have hhead : ∀ c ∈ s.head?, c ≠ '.' := by
        rintro c hc rfl
        obtain ⟨more, rfl⟩ := List.head?_eq_some_iff.mp hc
        exact hpoint ⟨more, rfl⟩
      rw [skipTail_eq_skipPower hhead] at h
      obtain ⟨e, rfl, hdigit, hletter⟩ := (skipPower_eq_ok_iff hs).mp h
      refine ⟨none, e, rfl, hdigit, hletter, ?_⟩
      rintro rfl -
      exact hhead
  · rintro ⟨f, e, rfl, hdigit, hletter, hpoint⟩
    cases f with
    | some d =>
      have htail : NoDigit (exponentChars e ++ rest) := noDigit_exponent hdigit
      rw [← toOption_eq_some_iff, fractionChars, List.cons_append, toOption_skipTail_point,
        skipDigits_eq_some_iff.mpr ⟨htail, d, rfl⟩, Option.bind_some, toOption_eq_some_iff]
      exact (skipPower_eq_ok_iff htail).mpr ⟨e, rfl, hdigit, hletter⟩
    | none =>
      have hhead : ∀ c ∈ (exponentChars e ++ rest).head?, c ≠ '.' := by
        cases e with
        | none => exact hpoint rfl rfl
        | some e =>
          rintro c hc rfl
          rcases e with ⟨_ | _, _, _⟩ <;> cases hc
      rw [fractionChars, List.nil_append, skipTail_eq_skipPower hhead]
      exact (skipPower_eq_ok_iff hs).mpr ⟨e, rfl, hdigit, hletter⟩

/-- The whole digits of a number, which begin with a zero only if they are one, before a text that does
not go on with a digit. -/
structure Whole (s : List Char) (d : Digits) (rest : List Char) : Prop where
  eq : s = d.chars ++ rest
  noDigit : NoDigit rest
  tight : d.first = '0' → d.more = []

theorem Written.Number.whole_unsignedChars (n : Written.Number) {rest : List Char}
    (h : NoDigit rest) :
    Whole (n.unsignedChars ++ rest) n.whole
      (fractionChars n.fraction ++ (exponentChars n.exponent ++ rest)) := by
  refine ⟨by rw [unsignedChars, List.append_assoc, List.append_assoc], ?_, n.tight⟩
  cases n.fraction with
  | none => exact noDigit_exponent h
  | some d =>
    rintro c hc
    cases hc
    rfl

/-- Behind whole digits it is the tail that is passed over. -/
theorem skipNumber_whole {s rest : List Char} {d : Digits} (h : Whole s d rest) :
    skipNumber s = skipTail rest := by
  obtain ⟨rfl, hrest, htight⟩ := h
  by_cases hzero : d.first = '0'
  · rw [Digits.chars, hzero, htight hzero]
    cases rest with
    | nil => rfl
    | cons c rest =>
      show (if isDigit c then _ else _) = _
      rw [if_neg (by rw [hrest c rfl]; exact Bool.false_ne_true)]
  · rw [Digits.chars, List.cons_append, skipNumber.eq_def]
    split
    · contradiction
    · rename_i heq
      exact absurd (List.cons.inj heq).1 hzero
    · rename_i heq
      obtain ⟨hc, hrest'⟩ := List.cons.inj heq
      rw [← hc, ← hrest', if_pos d.first_isDigit, dropWhile_digits d.more_isDigit hrest]

/-- A number begins with whole digits, or none is passed over. -/
theorem exists_whole_of_skipNumber {s rest : List Char} (h : skipNumber s = .ok rest) :
    ∃ d tail, Whole s d tail := by
  rw [skipNumber.eq_def] at h
  split at h
  · cases h
  · split at h
    · exact ⟨⟨'0', [], rfl, List.forall_mem_nil _⟩, [], rfl, noDigit_nil, fun _ => rfl⟩
    · rename_i c more
      split at h
      · cases h
      case isFalse hc =>
        refine ⟨⟨'0', [], rfl, List.forall_mem_nil _⟩, c :: more, rfl, ?_, fun _ => rfl⟩
        rintro d hd
        cases hd
        simpa using hc
  · rename_i c more hzero
    split at h
    case isTrue hc =>
      obtain ⟨d, hfirst, -, hd⟩ := exists_digits hc more
      refine ⟨d, more.dropWhile isDigit, hd, noDigit_dropWhile more, fun hfirst' => ?_⟩
      exact absurd (hfirst.symm.trans hfirst') hzero
    case isFalse => cases h

/-- A number is passed over, and nothing else is. -/
theorem skipNumber_eq_ok_iff (negative : Bool) {s rest : List Char} :
    skipNumber s = .ok rest ↔ ∃ n : Written.Number, n.negative = negative ∧
      s = n.unsignedChars ++ rest ∧ Stops n.fraction n.exponent rest := by
  constructor
  · intro h
    obtain ⟨d, tail, hwhole⟩ := exists_whole_of_skipNumber h
    rw [skipNumber_whole hwhole] at h
    obtain ⟨hs, htail, htight⟩ := hwhole
    obtain ⟨f, e, rfl, hstops⟩ := (skipTail_eq_ok_iff htail).mp h
    refine ⟨⟨negative, d, f, e, htight⟩, rfl, ?_, hstops⟩
    rw [hs, Written.Number.unsignedChars, List.append_assoc, List.append_assoc]
  · rintro ⟨n, -, rfl, hstops⟩
    have hwhole := n.whole_unsignedChars hstops.digit
    rw [skipNumber_whole hwhole]
    exact (skipTail_eq_ok_iff hwhole.noDigit).mpr ⟨_, _, rfl, hstops⟩

/-! ### The values of numbers -/

def Number.IsFloat (x : Number) : Prop := ∃ f, x = .float f

theorem finishFloat_ok {positive : Bool} {digits : Nat} {exponent : Int} {s rest : List Char}
    {x : Number} (h : finishFloat positive digits exponent s = .ok (x, rest)) :
    x.IsFloat ∧ s = rest := by
  rw [finishFloat] at h
  split at h
  · cases h
    exact ⟨⟨_, rfl⟩, rfl⟩
  · cases h

theorem readExponentDigits_ok {positive up : Bool} {digits size : Nat} {start : Int}
    {s rest : List Char} {x : Number}
    (h : readExponentDigits positive digits start up size s = .ok (x, rest)) :
    x.IsFloat ∧ s.dropWhile isDigit = rest := by
  induction s generalizing size with
  | nil => exact finishFloat_ok h
  | cons c s ih =>
    rw [readExponentDigits] at h
    split at h
    case isTrue hc =>
      rw [List.dropWhile_cons_of_pos hc]
      simp only at h
      split at h
      · exact ih h
      split at h
      · cases h
      · cases h
        exact ⟨⟨_, rfl⟩, rfl⟩
    case isFalse hc =>
      rw [List.dropWhile_cons_of_neg hc]
      exact finishFloat_ok h

/-- An exponent that is read is one that is passed over. -/
theorem readExponent_ok {positive : Bool} {digits : Nat} {start : Int} {s rest : List Char}
    {x : Number} (h : readExponent positive digits start s = .ok (x, rest)) :
    x.IsFloat ∧ skipExponent s = .ok rest := by
  have hdigits : ∀ {up : Bool} {s : List Char}, (match s with
      | [] => Except.error (Fault.here .valueUnfinished [])
      | c :: rest =>
        if isDigit c then readExponentDigits positive digits start up (digitValue c) rest
        else .error (.next .badNumber (c :: rest))) = .ok (x, rest) →
      x.IsFloat ∧ skipDigits s = some rest := by
    intro up s h
    cases s with
    | nil => cases h
    | cons c s =>
      simp only at h
      rw [skipDigits]
      split at h
      case isTrue hc =>
        rw [if_pos hc, Option.some_inj]
        exact readExponentDigits_ok h
      case isFalse => cases h
  rw [← toOption_eq_some_iff, toOption_skipExponent]
  rw [readExponent.eq_def] at h
  split at h
  rename_i up s' hsign
  have hs' : withoutSign s = s' := by
    split at hsign
    · cases hsign
      rfl
    · cases hsign
      rfl
    · rename_i hplus hminus
      cases hsign
      rw [withoutSign.eq_def]
      split
      · exact absurd rfl (hplus _)
      · exact absurd rfl (hminus _)
      · rfl
  rw [hs']
  exact hdigits h

/-- So is a fraction. -/
theorem readFraction_ok {positive : Bool} {digits : Nat} {start : Int} {s rest : List Char}
    {x : Number} (h : readFraction positive digits start s = .ok (x, rest)) :
    x.IsFloat ∧ skipTail ('.' :: s) = .ok rest := by
  rw [← toOption_eq_some_iff, toOption_skipTail_point]
  rw [readFraction.eq_def] at h
  simp only at h
  split at h
  · split at h <;> cases h
  case isFalse hplaces =>
    have hdigits : skipDigits s = some (s.dropWhile isDigit) := by
      cases s with
      | nil => exact absurd rfl hplaces
      | cons c s =>
        rw [skipDigits]
        split
        case isTrue hc => rw [List.dropWhile_cons_of_pos hc]
        case isFalse hc => exact absurd (by rw [List.takeWhile_cons_of_neg hc]; rfl) hplaces
    rw [hdigits, Option.bind_some, toOption_eq_some_iff]
    split at h
    · rename_i heq
      rw [skipPower.eq_def, heq]
      exact readExponent_ok h
    · rename_i heq
      rw [skipPower.eq_def, heq]
      exact readExponent_ok h
    · rename_i hlower hupper
      rw [skipPower.eq_def]
      split
      · rename_i heq
        exact absurd heq (hlower _)
      · rename_i heq
        exact absurd heq (hupper _)
      · obtain ⟨hx, hrest⟩ := finishFloat_ok h
        exact ⟨hx, congrArg _ hrest⟩

/-- Behind the whole digits of a number, nothing is read that is not passed over. What has a fraction or
an exponent is binary. -/
theorem finishNumber_ok {positive : Bool} {digits extra : Nat} {s rest : List Char} {x : Number}
    (h : finishNumber positive digits extra s = .ok (x, rest)) :
    skipTail s = .ok rest ∧ (x.IsFloat ∨ s = rest) := by
  rw [finishNumber.eq_def] at h
  split at h
  · obtain ⟨hx, hskip⟩ := readFraction_ok h
    exact ⟨hskip, .inl hx⟩
  · obtain ⟨hx, hskip⟩ := readExponent_ok h
    exact ⟨hskip, .inl hx⟩
  · obtain ⟨hx, hskip⟩ := readExponent_ok h
    exact ⟨hskip, .inl hx⟩
  · rename_i hpoint hlower hupper
    have hskip : skipTail s = .ok s := by
      rw [skipTail.eq_def]
      split
      · exact absurd rfl (hpoint _)
      · exact absurd rfl (hlower _)
      · exact absurd rfl (hupper _)
      · rfl
    have hrest : s = rest := by
      split at h
      · exact (finishFloat_ok h).2
      split at h
      · cases h; rfl
      split at h
      · cases h; rfl
      · cases h; rfl
    exact ⟨hrest ▸ hskip, .inr hrest⟩

/-- A number that is read is one that is passed over. -/
theorem skipNumber_of_readNumber {positive : Bool} {s rest : List Char} {x : Number}
    (h : readNumber positive s = .ok (x, rest)) : skipNumber s = .ok rest := by
  rw [readNumber.eq_def] at h
  split at h
  · cases h
  · split at h
    · exact (finishNumber_ok h).1
    · split at h
      · cases h
      case isFalse hc =>
        rw [skipNumber]
        simp only [if_neg hc]
        exact (finishNumber_ok h).1
  · rename_i hzero
    split at h
    case isTrue hc =>
      rw [skipNumber.eq_def]
      split
      · contradiction
      · rename_i heq
        exact absurd (List.cons.inj heq).1 hzero
      · rename_i heq
        obtain ⟨rfl, rfl⟩ := List.cons.inj heq
        rw [if_pos hc]
        exact (finishNumber_ok h).1
    case isFalse => cases h

/-- The value of digits behind others. -/
def valueFrom (n : Nat) (ds : List Char) : Nat := ds.foldl (fun n c => n * 10 + digitValue c) n

theorem le_valueFrom (ds : List Char) (n : Nat) : n ≤ valueFrom n ds := by
  induction ds generalizing n with
  | nil => exact Nat.le_refl n
  | cons c ds ih =>
    have hstep : n ≤ n * 10 + digitValue c := by omega
    exact Nat.le_trans hstep (ih (n * 10 + digitValue c))

theorem collect_of_lt {ds : List Char} {n : Nat} (h : valueFrom n ds < 0x10000000000000000) :
    collect n ds = (valueFrom n ds, []) := by
  induction ds generalizing n with
  | nil => rfl
  | cons c ds ih =>
    have hstep : n * 10 + digitValue c < 0x10000000000000000 := Nat.lt_of_le_of_lt (le_valueFrom ..) h
    rw [collect]
    simp only [if_pos hstep]
    exact ih h

theorem collect_of_le {ds : List Char} {n : Nat} (hn : n < 0x10000000000000000)
    (h : 0x10000000000000000 ≤ valueFrom n ds) : (collect n ds).2 ≠ [] := by
  induction ds generalizing n with
  | nil => exact absurd h (Nat.not_le.mpr hn)
  | cons c ds ih =>
    rw [collect]
    split
    case isTrue hstep => exact ih hstep h
    case isFalse => exact List.cons_ne_nil c ds

/-- Whole digits are collected before what follows them decides. -/
theorem readNumber_whole (positive : Bool) {s rest : List Char} {d : Digits} (h : Whole s d rest) :
    readNumber positive s
      = finishNumber positive (collect 0 d.chars).1 (collect 0 d.chars).2.length rest := by
  obtain ⟨rfl, hrest, htight⟩ := h
  by_cases hzero : d.first = '0'
  · rw [Digits.chars, hzero, htight hzero]
    cases rest with
    | nil => rfl
    | cons c rest =>
      show (if isDigit c then _ else _) = _
      rw [if_neg (by rw [hrest c rfl]; exact Bool.false_ne_true)]
      rfl
  · have hdigits : (d.first :: (d.more ++ rest)).takeWhile isDigit = d.chars :=
      takeWhile_digits (isDigit_of_mem d) hrest
    rw [Digits.chars, List.cons_append, readNumber.eq_def]
    split
    · contradiction
    · rename_i heq
      exact absurd (List.cons.inj heq).1 hzero
    · rename_i heq
      obtain ⟨hc, hrest'⟩ := List.cons.inj heq
      rw [← hc, ← hrest', if_pos d.first_isDigit, hdigits, dropWhile_digits d.more_isDigit hrest]
      rfl

theorem finishNumber_of_stops {s : List Char} (h : Stops none none s) (positive : Bool)
    (digits extra : Nat) :
    finishNumber positive digits extra s =
      if extra ≠ 0 then finishFloat positive digits extra s
      else if positive then .ok (.natural digits, s)
      else if digits = 0 ∨ 0x8000000000000000 < digits then
        .ok (.float (Binary64.ofNat digits).neg, s)
      else .ok (.negative (-digits), s) := by
  rw [finishNumber.eq_def]
  split
  · exact absurd rfl (h.point rfl rfl '.' rfl)
  · exact absurd rfl (h.letter rfl 'e' rfl).1
  · exact absurd rfl (h.letter rfl 'E' rfl).2
  · rfl

/-- A number that is kept exactly is read as it is kept. -/
theorem readNumber_kept {n : Written.Number} {x : Number} (hx : n.kept? = some x) {rest : List Char}
    (h : Stops n.fraction n.exponent rest) :
    readNumber (!n.negative) (n.unsignedChars ++ rest) = .ok (x, rest) := by
  have hwhole := n.whole_unsignedChars h.digit
  rw [Written.Number.kept?] at hx
  split at hx
  · cases hx
  case isFalse hplain =>
  simp only [Bool.or_eq_true, decide_eq_true_eq, not_or, Bool.not_eq_true, Option.isSome_eq_false_iff,
    Option.isNone_iff_eq_none] at hplain
  obtain ⟨⟨hfraction, hexponent⟩, hvalue⟩ := hplain
  rw [hfraction, hexponent] at h hwhole
  have hcollect : collect 0 n.whole.chars = (n.whole.value, []) :=
    collect_of_lt (Nat.not_le.mp hvalue)
  rw [readNumber_whole _ hwhole, hcollect]
  refine (finishNumber_of_stops h _ _ _).trans ?_
  rw [if_neg (by simp)]
  split at hx
  case isTrue hpositive =>
    cases hx
    rw [if_pos hpositive]
  case isFalse hnegative =>
    rw [if_neg hnegative]
    split at hx
    · cases hx
    case isFalse hsmall =>
      cases hx
      exact if_neg hsmall

/-- Any other number is read as a binary one, if it is read at all. -/
theorem readNumber_not_kept {n : Written.Number} (hx : n.kept? = none) {rest rest' : List Char}
    {x : Number} (h : Stops n.fraction n.exponent rest)
    (hread : readNumber (!n.negative) (n.unsignedChars ++ rest) = .ok (x, rest')) :
    x.IsFloat ∧ rest' = rest := by
  have hwhole := n.whole_unsignedChars h.digit
  have hrest : rest' = rest := by
    have hskip := skipNumber_of_readNumber hread
    rw [(skipNumber_eq_ok_iff n.negative).mpr ⟨n, rfl, rfl, h⟩] at hskip
    exact (Except.ok.inj hskip).symm
  subst hrest
  refine ⟨?_, rfl⟩
  rw [readNumber_whole _ hwhole] at hread
  rcases (finishNumber_ok hread).2 with hfloat | htail
  · exact hfloat
  -- without fraction and exponent, either the digits do not fit or the sign makes the number binary
  have hlength := congrArg List.length htail
  rw [List.length_append, List.length_append] at hlength
  have hfraction : n.fraction = none := by
    cases hf : n.fraction with
    | none => rfl
    | some d =>
      rw [hf, fractionChars, List.length_cons] at hlength
      omega
  have hexponent : n.exponent = none := by
    cases he : n.exponent with
    | none => rfl
    | some e =>
      rw [he, exponentChars, Exponent.chars, List.length_cons] at hlength
      omega
  rw [hfraction, hexponent] at h hread
  rw [show fractionChars none ++ (exponentChars none ++ rest') = rest' from rfl,
    finishNumber_of_stops h] at hread
  split at hread
  · exact (finishFloat_ok hread).1
  case isFalse hextra =>
  have hall : (collect 0 n.whole.chars).2 = [] :=
    List.eq_nil_of_length_eq_zero (Decidable.not_not.mp hextra)
  have hvalue : n.whole.value < 0x10000000000000000 :=
    Nat.not_le.mp fun hlarge => collect_of_le (by decide) hlarge hall
  have hcollect : collect 0 n.whole.chars = (n.whole.value, []) := collect_of_lt hvalue
  rw [Written.Number.kept?, hfraction, hexponent] at hx
  split at hx
  case isTrue hlarge => exact absurd hvalue (Nat.not_lt.mpr (by simpa using hlarge))
  split at hx
  · cases hx
  case isFalse hnegative =>
  rw [if_neg hnegative, hcollect] at hread
  split at hx
  case isTrue hzero =>
    rw [if_pos hzero] at hread
    cases hread
    exact ⟨_, rfl⟩
  case isFalse => cases hx

end PasswordGrant.Json
