/-!
# Points in time

A moment is a reading of a clock: whole seconds since the beginning of 1970, in universal time, and
nanoseconds. A leap second is read as a second billion of nanoseconds behind its second. An instant is a
moment from the year -262143 to the year 262142. A lifetime in seconds is bounded as well.

* `Moment.shift` : a moment so many seconds later or earlier;
* `Moment.nanosUntil` : nanoseconds between two moments;
* `Instant.addSeconds?` : a later or earlier instant, if there is one;
* `Instant.secondsUntil` : whole seconds between two instants, toward zero;
* `Instant.reaches` : whether a buffer of seconds reaches an instant, where it can be told;
* `Instant.text` : the date and time of day;
* `Instant.HasAfter` : whether there is an instant so many seconds later, which is when one is found and when
  a buffer is compared.
-/

namespace PasswordGrant

/-- A reading of a clock of universal time: whole seconds since the beginning of 1970, and nanoseconds. -/
structure Moment where
  seconds : Int
  nanos : Nat
  deriving DecidableEq, Repr

namespace Moment

/-- The moment lies in a leap second, which comes right after its second. -/
def IsLeap (m : Moment) : Prop := 1000000000 ≤ m.nanos

instance (m : Moment) : Decidable m.IsLeap := inferInstanceAs (Decidable (_ ≤ _))

/-- Moments follow one another as their seconds do, and within a second as their nanoseconds do. -/
instance : LE Moment := ⟨fun m k => m.seconds < k.seconds ∨ m.seconds = k.seconds ∧ m.nanos ≤ k.nanos⟩

instance : LT Moment := ⟨fun m k => m.seconds < k.seconds ∨ m.seconds = k.seconds ∧ m.nanos < k.nanos⟩

instance (m k : Moment) : Decidable (m ≤ k) := inferInstanceAs (Decidable (_ ∨ _))

instance (m k : Moment) : Decidable (m < k) := inferInstanceAs (Decidable (_ ∨ _))

/-- The moment a number of seconds later, or earlier if the number is negative. No other second than that of
the moment itself is taken for a leap second. -/
def shift (m : Moment) (s : Int) : Moment :=
  if m.IsLeap ∧ s ≠ 0 then
    -- forth, the leap second ends with the second that is gone; back, it began a second ago
    ⟨if 0 < s then m.seconds + s else m.seconds + 1 + s, m.nanos - 1000000000⟩
  else ⟨m.seconds + s, m.nanos⟩

/-- Seconds since the day began. -/
def timeOfDay (m : Moment) : Int := m.seconds % 86400

/-- The leap second that lies between two moments. It is that of the moment with the earlier time of day,
whatever the days, and counts back if that is the moment that the span leads to. -/
def leapSecondsUntil (now later : Moment) : Int :=
  if now.timeOfDay < later.timeOfDay ∧ now.IsLeap then 1
  else if later.timeOfDay < now.timeOfDay ∧ later.IsLeap then -1
  else 0

/-- Nanoseconds from one moment until another. -/
def nanosUntil (now later : Moment) : Int :=
  (later.seconds - now.seconds + now.leapSecondsUntil later) * 1000000000 + later.nanos - now.nanos

end Moment

/-- An instant of universal time. -/
structure Instant extends Moment where
  nanos_lt : nanos < 2000000000
  not_too_early : -8334601228800 ≤ seconds
  not_too_late : seconds < 8210266876800
  deriving DecidableEq, Repr

namespace Instant

/-- The instant of a moment, if it is in range. -/
def ofMoment? (m : Moment) : Option Instant :=
  if h : m.nanos < 2000000000 ∧ -8334601228800 ≤ m.seconds ∧ m.seconds < 8210266876800 then
    some ⟨m, h.1, h.2.1, h.2.2⟩
  else none

/-- The beginning of 1970. -/
def epoch : Instant := ⟨⟨0, 0⟩, by decide, by decide, by decide⟩

/-- The longest span in seconds, forth or back, that can be added to an instant. -/
def spanLimit : Int := 9223372036854775

/-- The instant a number of seconds later; `none` if the span or the instant is out of range. -/
def addSeconds? (t : Instant) (s : Int) : Option Instant :=
  if -spanLimit ≤ s ∧ s ≤ spanLimit then ofMoment? (t.shift s) else none

/-- Whole seconds from one instant until another, toward zero. -/
def secondsUntil (now later : Instant) : Int := (now.nanosUntil later.toMoment).tdiv 1000000000

/-- Why a buffer cannot be compared with an instant. -/
inductive OutOfRange where
  /-- The buffer itself is too long. -/
  | span
  /-- The buffer leads out of the range of instants. -/
  | instant
  deriving DecidableEq, Repr

/-- Whether `now` with a buffer of seconds is at or after an instant. -/
def reaches (now : Instant) (buffer : Int) (goal : Instant) : Except OutOfRange Bool :=
  if buffer < -spanLimit ∨ spanLimit < buffer then .error .span
  else match ofMoment? (now.shift buffer) with
    | none => .error .instant
    | some t => .ok (decide (goal.toMoment ≤ t.toMoment))

/-! ### Date and time of day -/

/-- A day of the calendar. -/
structure Date where
  year : Int
  month : Nat
  day : Nat
  deriving DecidableEq, Repr

/-- The date of a day, counted from the first of January 1970. Days are counted from the first of
March of the year zero, in eras of 400 years, so that a leap day is the last of its year. -/
def Date.ofDay (day : Int) : Date :=
  let shifted := day + 719468
  let era := shifted / 146097
  let dayOfEra := (shifted % 146097).toNat
  let yearOfEra := (dayOfEra - dayOfEra / 1460 + dayOfEra / 36524 - dayOfEra / 146096) / 365
  let dayOfYear := dayOfEra - (365 * yearOfEra + yearOfEra / 4 - yearOfEra / 100)
  let shiftedMonth := (5 * dayOfYear + 2) / 153
  let month := if shiftedMonth < 10 then shiftedMonth + 3 else shiftedMonth - 9
  let year := era * 400 + yearOfEra
  ⟨if month ≤ 2 then year + 1 else year, month, dayOfYear - (153 * shiftedMonth + 2) / 5 + 1⟩

/-- A number with at least `width` digits. -/
def padded (width n : Nat) : String :=
  let digits := Nat.toDigits 10 n
  String.ofList (List.replicate (width - digits.length) '0' ++ digits)

/-- A year: four digits, and a sign before it where it is outside 0 to 9999. -/
def yearText (year : Int) : String :=
  if 0 ≤ year ∧ year ≤ 9999 then padded 4 year.natAbs
  else (if year < 0 then "-" else "+") ++ padded 4 year.natAbs

/-- A fraction of a second in 0, 3, 6 or 9 digits, the fewest that are exact. -/
def fractionText (nanos : Nat) : String :=
  if nanos = 0 then ""
  else if nanos % 1000000 = 0 then "." ++ padded 3 (nanos / 1000000)
  else if nanos % 1000 = 0 then "." ++ padded 6 (nanos / 1000)
  else "." ++ padded 9 nanos

/-- The date and time of day of an instant. A leap second has the number that follows its second's. -/
def text (t : Instant) : String :=
  let date := Date.ofDay (t.seconds / 86400)
  let second := t.timeOfDay.toNat
  let leap := t.nanos / 1000000000
  yearText date.year ++ "-" ++ padded 2 date.month ++ "-" ++ padded 2 date.day ++ "T"
    ++ padded 2 (second / 3600) ++ ":" ++ padded 2 (second / 60 % 60) ++ ":"
    ++ padded 2 (second % 60 + leap) ++ fractionText (t.nanos % 1000000000) ++ "Z"

/-! ### Adding and comparing -/

end Instant

namespace Moment

variable {m k : Moment} {s : Int}

theorem le_iff : m ≤ k ↔ m.seconds < k.seconds ∨ m.seconds = k.seconds ∧ m.nanos ≤ k.nanos := Iff.rfl

theorem lt_iff : m < k ↔ m.seconds < k.seconds ∨ m.seconds = k.seconds ∧ m.nanos < k.nanos := Iff.rfl

theorem shift_of_not_isLeap (h : ¬m.IsLeap) (s : Int) : m.shift s = ⟨m.seconds + s, m.nanos⟩ := by
  rw [shift, if_neg]
  intro hleap
  exact h hleap.1

theorem shift_of_pos (h : 0 < s) (hnanos : m.nanos < 2000000000) :
    m.shift s = ⟨m.seconds + s, m.nanos % 1000000000⟩ := by
  by_cases hleap : m.IsLeap
  · have hrest : m.nanos - 1000000000 < 1000000000 := by omega
    rw [shift, if_pos ⟨hleap, by omega⟩, if_pos h, Nat.mod_eq_sub_mod hleap, Nat.mod_eq_of_lt hrest]
  · rw [shift_of_not_isLeap hleap, Nat.mod_eq_of_lt (Nat.lt_of_not_le hleap)]

theorem seconds_shift (m : Moment) (s : Int) : (m.shift s).seconds = m.seconds + s ∨
    s < 0 ∧ (m.shift s).seconds = m.seconds + 1 + s := by
  rw [shift]
  split
  case isTrue hleap =>
    dsimp only
    split
    · exact .inl rfl
    · exact .inr ⟨by omega, rfl⟩
  case isFalse => exact .inl rfl

theorem nanos_shift_le (m : Moment) (s : Int) : (m.shift s).nanos ≤ m.nanos := by
  rw [shift]
  split
  · exact Nat.sub_le ..
  · exact Nat.le_refl _

end Moment

namespace Instant

variable {t u now : Instant} {m : Moment} {s buffer : Int}

theorem ofMoment?_eq_some_iff : ofMoment? m = some t ↔ t.toMoment = m := by
  unfold ofMoment?
  split
  case isTrue h =>
    constructor
    · intro ht
      rw [← Option.some.inj ht]
    · intro ht
      subst ht
      rfl
  case isFalse h =>
    constructor
    · intro ht
      cases ht
    · intro ht
      exact absurd ⟨ht ▸ t.nanos_lt, ht ▸ t.not_too_early, ht ▸ t.not_too_late⟩ h

/-- There is an instant a number of seconds after another one, or before it if the number is negative. -/
def HasAfter (t : Instant) (s : Int) : Prop := ∃ u : Instant, u.toMoment = t.shift s

theorem HasAfter.span_bounded (h : t.HasAfter s) : -spanLimit ≤ s ∧ s ≤ spanLimit := by
  obtain ⟨u, hu⟩ := h
  have hfirst := t.not_too_early
  have hlast := t.not_too_late
  have hfirst' := u.not_too_early
  have hlast' := u.not_too_late
  have hshift := t.seconds_shift s
  rw [← hu] at hshift
  rw [spanLimit]
  omega

/-- An instant that is a number of seconds away from another one is found from it, and no other one is. -/
theorem addSeconds?_eq_some_iff : t.addSeconds? s = some u ↔ u.toMoment = t.shift s := by
  rw [addSeconds?, Option.ite_none_right_eq_some, ofMoment?_eq_some_iff]
  exact ⟨fun h => h.2, fun h => ⟨HasAfter.span_bounded ⟨u, h⟩, h⟩⟩

theorem reaches_of_hasAfter (h : now.HasAfter buffer) (goal : Instant) :
    now.reaches buffer goal = .ok (decide (goal.toMoment ≤ now.shift buffer)) := by
  have hspan := h.span_bounded
  obtain ⟨t, ht⟩ := h
  rw [reaches, if_neg (by omega), ofMoment?_eq_some_iff.mpr ht]
  simp only [ht]

/-- A buffer that leads to no instant cannot be compared: it is too long, or else it leads out of the range
of instants. -/
theorem reaches_of_not_hasAfter (h : ¬now.HasAfter buffer) (goal : Instant) :
    now.reaches buffer goal
      = .error (if buffer < -spanLimit ∨ spanLimit < buffer then .span else .instant) := by
  have hnone : ofMoment? (now.shift buffer) = none := by
    apply Option.eq_none_iff_forall_ne_some.mpr
    intro t ht
    exact h ⟨t, ofMoment?_eq_some_iff.mp ht⟩
  rw [reaches, hnone]
  split
  · rfl
  · rfl

end Instant

end PasswordGrant
