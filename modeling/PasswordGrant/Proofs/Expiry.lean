import PasswordGrant.Proofs.Except
import PasswordGrant.Proofs.ExpiryBuffer

/-!
# Two views of an expiry

How close a token is to its expiry can be asked in two ways: how many whole seconds are left, and whether a
buffer of seconds reaches the expiry. The first view takes the span between two moments and rounds it toward
zero, so down before the expiry and up behind it; the second adds the buffer to a moment and compares to the
nanosecond. They agree wherever the whole seconds and the buffer are not the same number, and where they are,
the part of a second that was rounded off decides.

All this is so outside leap seconds. In a leap second, adding and taking the span do not undo each other, and
a buffer that reached the expiry a moment before may no longer reach it.

* `Moment.le_shift_iff` : outside leap seconds a buffer reaches what its span fits into;
* `Moment.shift_le_shift_right`, `Moment.shift_le_shift_left` : more seconds lead further, and so they do from
  a later moment outside leap seconds;
* `Instant.secondsUntil_spec` : what rounding toward zero leaves over;
* `Instant.secondsUntil_of_later` : whole seconds back again;
* `Grant.expiry_views` : how the two views are related;
* `Grant.expiry_views_in_leap_second` : what goes wrong in a leap second.
-/

namespace PasswordGrant

/-! ### Moments -/

namespace Moment

variable {m m' k : Moment} {s s' : Int}

theorem nanosUntil_eq (hm : ¬m.IsLeap) (hk : ¬k.IsLeap) :
    m.nanosUntil k = (k.seconds - m.seconds) * 1000000000 + k.nanos - m.nanos := by
  have hnone : m.leapSecondsUntil k = 0 := by
    rw [leapSecondsUntil, if_neg, if_neg]
    · intro hleap
      exact hk hleap.2
    · intro hleap
      exact hm hleap.2
  rw [nanosUntil, hnone, Int.add_zero]

theorem nanosUntil_bounded (m k : Moment) :
    (k.seconds - m.seconds - 1) * 1000000000 + k.nanos - m.nanos ≤ m.nanosUntil k ∧
      m.nanosUntil k ≤ (k.seconds - m.seconds + 1) * 1000000000 + k.nanos - m.nanos := by
  have hleap : -1 ≤ m.leapSecondsUntil k ∧ m.leapSecondsUntil k ≤ 1 := by
    rw [leapSecondsUntil]
    split
    · decide
    split
    · decide
    · decide
  rw [nanosUntil]
  omega

/-- Outside leap seconds a number of seconds reaches a moment exactly if the span until then fits into it. -/
theorem le_shift_iff (hm : ¬m.IsLeap) (hk : ¬k.IsLeap) :
    k ≤ m.shift s ↔ m.nanosUntil k ≤ s * 1000000000 := by
  rw [nanosUntil_eq hm hk, shift_of_not_isLeap hm, le_iff]
  rw [IsLeap] at hm hk
  dsimp only
  omega

theorem lt_iff_nanosUntil_neg (hm : ¬m.IsLeap) (hk : ¬k.IsLeap) : k < m ↔ m.nanosUntil k < 0 := by
  rw [nanosUntil_eq hm hk, lt_iff]
  rw [IsLeap] at hm hk
  omega

theorem le_trans (h : m ≤ m') (h' : m' ≤ k) : m ≤ k := by
  rw [le_iff] at h h' ⊢
  omega

theorem shift_le_shift_right (m : Moment) (h : s ≤ s') : m.shift s ≤ m.shift s' := by
  by_cases hleap : m.IsLeap
  case pos =>
    -- both ways out of a leap second lead past it, and its own nanoseconds stay in between
    have hnanos : 1000000000 ≤ m.nanos := hleap
    rw [le_iff]
    grind [shift]
  case neg =>
    rw [shift_of_not_isLeap hleap, shift_of_not_isLeap hleap, le_iff]
    dsimp only
    omega

theorem shift_le_shift_left (hm : ¬m.IsLeap) (hm' : ¬m'.IsLeap) (h : m ≤ m') (s : Int) :
    m.shift s ≤ m'.shift s := by
  rw [shift_of_not_isLeap hm, shift_of_not_isLeap hm', le_iff]
  rw [le_iff] at h
  dsimp only
  omega

end Moment

/-! ### Whole seconds -/

namespace Instant

variable {now later : Instant} {b : Int}

/-- Whole seconds are rounded toward zero: down to the instant that comes, and up to one that is past. -/
theorem secondsUntil_spec (now later : Instant) :
    (0 ≤ now.nanosUntil later.toMoment ∧
      now.secondsUntil later * 1000000000 ≤ now.nanosUntil later.toMoment ∧
      now.nanosUntil later.toMoment < (now.secondsUntil later + 1) * 1000000000) ∨
    (now.nanosUntil later.toMoment < 0 ∧
      now.nanosUntil later.toMoment ≤ now.secondsUntil later * 1000000000 ∧
      (now.secondsUntil later - 1) * 1000000000 < now.nanosUntil later.toMoment) := by
  rw [secondsUntil]
  generalize now.nanosUntil later.toMoment = span
  have hsplit := Int.tmod_add_mul_tdiv span 1000000000
  have hbelow := Int.tmod_lt_of_pos span (b := 1000000000) (by decide)
  have habove := Int.lt_tmod_of_pos span (b := 1000000000) (by decide)
  -- the rest has the sign of the span
  by_cases hcomes : 0 ≤ span
  · have hrest : 0 ≤ span.tmod 1000000000 := Int.tmod_nonneg _ hcomes
    exact .inl ⟨hcomes, by omega, by omega⟩
  · have hrest : span.tmod 1000000000 ≤ 0 := by
      have hback := Int.tmod_nonneg 1000000000 (a := -span) (by omega)
      rw [Int.neg_tmod] at hback
      omega
    exact .inr ⟨by omega, by omega, by omega⟩

theorem secondsUntil_le_of_le (h : now.nanosUntil later.toMoment ≤ b * 1000000000) :
    now.secondsUntil later ≤ b := by
  rcases secondsUntil_spec now later with ⟨-, hdown, -⟩ | ⟨-, -, hup⟩
  · omega
  · omega

theorem le_of_secondsUntil_lt (h : now.secondsUntil later < b) :
    now.nanosUntil later.toMoment ≤ b * 1000000000 := by
  rcases secondsUntil_spec now later with ⟨-, -, hdown⟩ | ⟨-, hup, -⟩
  · omega
  · omega

/-- The second that is lost on the way back from an instant that lies later: a leap second that was left is
counted only if the later time of day tells that it was. -/
def secondLost (now later : Instant) : Nat :=
  if now.IsLeap ∧ later.timeOfDay ≤ now.timeOfDay then 1 else 0

theorem secondLost_le_one (now later : Instant) : now.secondLost later ≤ 1 := by
  rw [secondLost]
  split
  · exact Nat.le_refl 1
  · exact Nat.zero_le 1

/-- An instant a positive number of seconds later is that many seconds away, less the one that is lost. -/
theorem secondsUntil_of_later {s : Int} (h : later.toMoment = now.shift s) (hs : 0 < s) :
    now.secondsUntil later = s - now.secondLost later := by
  have hnow := now.nanos_lt
  have hseconds := congrArg Moment.seconds h
  have hnanos := congrArg Moment.nanos h
  rw [Moment.shift_of_pos hs hnow] at hseconds hnanos
  dsimp only at hseconds hnanos
  have hplain : ¬later.IsLeap := by
    rw [Moment.IsLeap, hnanos]
    omega
  have hspan : now.nanosUntil later.toMoment = (s - now.secondLost later) * 1000000000 := by
    rw [Moment.nanosUntil, Moment.leapSecondsUntil, secondLost]
    by_cases hleap : now.IsLeap
    case pos =>
      have hlong : 1000000000 ≤ now.nanos := hleap
      by_cases htime : now.timeOfDay < later.timeOfDay
      · rw [if_pos ⟨htime, hleap⟩, if_neg (fun hearlier => by omega)]
        omega
      · rw [if_neg (fun hlater => htime hlater.1), if_neg (fun hlater => hplain hlater.2),
          if_pos ⟨hleap, by omega⟩]
        omega
    case neg =>
      have hshort : now.nanos < 1000000000 := Nat.lt_of_not_le hleap
      rw [if_neg (fun hlater => hleap hlater.2), if_neg (fun hlater => hplain hlater.2),
        if_neg (fun hearlier => hleap hearlier.1)]
      omega
  rw [secondsUntil, hspan, Int.mul_tdiv_cancel _ (by decide)]

end Instant

/-! ### The two views -/

namespace Grant

variable {g : Grant} {expiry now : Instant} {buffer : Int} {expiring : Bool}

/-- Where it can be told whether a token expires within a buffer, it does exactly if the buffer reaches the
expiry. -/
theorem isExpiring_eq_true_iff (hexpiry : g.expiresAt = some expiry)
    (h : g.isExpiring buffer now = .ok expiring) :
    expiring = true ↔ expiry.toMoment ≤ now.shift buffer := by
  obtain ⟨-, hexact⟩ := (isExpiring_eq_ok_iff g buffer now expiring).mp h
  rw [hexact, expiresWithin_iff hexpiry]

/-- A token that expires within a buffer also expires within a longer one, and later unless a leap second is
in the way. -/
theorem isExpiring_mono (hexpiry : g.expiresAt = some expiry)
    (h : g.isExpiring buffer now = .ok expiring) {buffer' : Int} {now' : Instant} {expiring' : Bool}
    (h' : g.isExpiring buffer' now' = .ok expiring') (hbuffer : buffer ≤ buffer')
    (hnow : now' = now ∨ ¬now.IsLeap ∧ ¬now'.IsLeap ∧ now.toMoment ≤ now'.toMoment)
    (hexpiring : expiring = true) : expiring' = true := by
  have hreached := (isExpiring_eq_true_iff hexpiry h).mp hexpiring
  have hlonger := Moment.le_trans hreached (Moment.shift_le_shift_right now.toMoment hbuffer)
  apply (isExpiring_eq_true_iff hexpiry h').mpr
  rcases hnow with rfl | ⟨hplain, hplain', hlater⟩
  · exact hlonger
  · exact Moment.le_trans hlonger (Moment.shift_le_shift_left hplain hplain' hlater buffer')

/-- Unless the moment or the expiry lies in a leap second: a token that expires within a buffer has no more
whole seconds left than the buffer, and one with fewer whole seconds left expires within it. It expires
within the buffer exactly if what is left of its life is at most the buffer; so with as many whole seconds
left, exactly if it is past its expiry or no part of a second is left above them. A token that expires within
a buffer also expires within a longer one, and later if neither moment lies in a leap second. -/
theorem expiry_views (hexpiry : g.expiresAt = some expiry)
    (h : g.isExpiring buffer now = .ok expiring) :
    ∃ left, g.secondsUntilExpiry now = some left ∧
      (¬now.IsLeap → ¬expiry.IsLeap →
        (expiring = true → left ≤ buffer) ∧
        (left < buffer → expiring = true) ∧
        (expiring = true ↔ now.nanosUntil expiry.toMoment ≤ buffer * 1000000000) ∧
        (left = buffer → (expiring = true ↔ expiry.toMoment < now.toMoment ∨
          now.nanosUntil expiry.toMoment = buffer * 1000000000))) ∧
      ∀ (buffer' : Int) (now' : Instant) (expiring' : Bool),
        g.isExpiring buffer' now' = .ok expiring' → buffer ≤ buffer' →
          now' = now ∨ ¬now.IsLeap ∧ ¬now'.IsLeap ∧ now.toMoment ≤ now'.toMoment →
          expiring = true → expiring' = true := by
  have hleft : g.secondsUntilExpiry now = some (now.secondsUntil expiry) := by
    rw [secondsUntilExpiry, hexpiry, Option.map_some]
  refine ⟨now.secondsUntil expiry, hleft, ?_, ?_⟩
  · intro hnow hexp
    have hexact : expiring = true ↔ now.nanosUntil expiry.toMoment ≤ buffer * 1000000000 := by
      rw [isExpiring_eq_true_iff hexpiry h, Moment.le_shift_iff hnow hexp]
    refine ⟨?_, ?_, hexact, ?_⟩
    · intro hexpiring
      exact Instant.secondsUntil_le_of_le (hexact.mp hexpiring)
    · intro hfewer
      exact hexact.mpr (Instant.le_of_secondsUntil_lt hfewer)
    · intro htie
      rw [hexact, Moment.lt_iff_nanosUntil_neg hnow hexp]
      rcases Instant.secondsUntil_spec now expiry with ⟨hcomes, hdown, -⟩ | ⟨hpast, hup, -⟩
      · rw [htie] at hdown
        omega
      · rw [htie] at hup
        omega
  · intro buffer' now' expiring' h' hbuffer hlater hexpiring
    exact isExpiring_mono hexpiry h h' hbuffer hlater hexpiring

/-- One second and a half behind its expiry, a token has minus one second left: it expires within a buffer
of that, and so within none at all. -/
theorem expiry_views_behind :
    let g := { new "token" "session" Instant.epoch with expiresAt := some Instant.epoch }
    let now : Instant := ⟨⟨1, 500000000⟩, by decide, by decide, by decide⟩
    g.secondsUntilExpiry now = some (-1) ∧ g.isExpiring (-1) now = .ok true ∧
      g.isExpiring 0 now = .ok true := by
  intro g now
  have hexpiry : g.expiresAt = some Instant.epoch := rfl
  have hback : g.isExpiring (-1) now = .ok (decide (Instant.epoch.toMoment ≤ ⟨0, 500000000⟩)) := rfl
  have hnone : g.isExpiring 0 now = .ok (decide (Instant.epoch.toMoment ≤ ⟨1, 500000000⟩)) := rfl
  obtain ⟨left, hleft, hviews, hlonger⟩ := expiry_views hexpiry hback
  have hvalue : left = -1 := Option.some.inj (hleft.symm.trans (show _ = some (-1) by decide))
  obtain ⟨-, -, -, htie⟩ := hviews (by decide) (by decide)
  have hexpiring := (htie hvalue).mpr (.inl (by decide))
  refine ⟨hvalue ▸ hleft, hexpiring ▸ hback, ?_⟩
  rw [hnone, hlonger 0 now _ hnone (by decide) (.inl rfl) hexpiring]

/-- A token that expires half a second into the year 2017. A tenth of a second before the leap second at the
end of 2016 it expires within one second, and at the beginning of that leap second it does not any more,
although no whole second is left. Nor do the two views agree on an expiry in a leap second at noon, asked on
the evening before. -/
theorem expiry_views_in_leap_second :
    let g := (new "token" "session" ⟨⟨1483228799, 500000000⟩, by decide, by decide, by decide⟩).withLifetime
      (some 1)
    let before : Instant := ⟨⟨1483228799, 900000000⟩, by decide, by decide, by decide⟩
    let leap : Instant := ⟨⟨1483228799, 1000000000⟩, by decide, by decide, by decide⟩
    let noon : Instant := ⟨⟨129659, 1200000000⟩, by decide, by decide, by decide⟩
    let evening : Instant := ⟨⟨72000, 500000000⟩, by decide, by decide, by decide⟩
    let h := { new "token" "session" Instant.epoch with expiresAt := some noon }
    (g.isExpiring 1 before = .ok true ∧ before.toMoment < leap.toMoment ∧
      g.isExpiring 1 leap = .ok false ∧ g.secondsUntilExpiry leap = some 0) ∧
    h.isExpiring 57659 evening = .ok false ∧ h.secondsUntilExpiry evening = some 57658 := by
  intro g before leap noon evening h
  have hbefore : g.isExpiring 1 before = .ok true := eq_ok_of_toOption (by decide)
  have hleap : g.isExpiring 1 leap = .ok false := eq_ok_of_toOption (by decide)
  have hevening : h.isExpiring 57659 evening = .ok false := eq_ok_of_toOption (by decide)
  exact ⟨⟨hbefore, by decide, hleap, by decide⟩, hevening, by decide⟩

end Grant

end PasswordGrant
