import PasswordGrant.Grant

/-!
# How far a buffer reaches

Whether a token expires within a buffer of seconds is a question about moments, and as such it has an answer
for every buffer. The check goes through the instant at which the buffer ends, so it answers only if
there is such an instant, and its answer is then the exact one. Where there is none, the check fails although
the direction of the buffer alone would tell the answer: what lies behind the last instant is behind every
expiry, and what lies before the first one is before every expiry.

* `Instant.le_iff_of_not_hasAfter` : beyond the range of instants the sign decides;
* `Grant.ExpiresWithin` : the exact question;
* `Grant.isExpiring_of_hasAfter`, `Grant.isExpiring_of_not_hasAfter` : the check of a token with an expiry;
* `Grant.isExpiring_eq_ok_iff`, `Grant.isExpiring_eq_error_iff` : when it answers and when it fails;
* `Grant.isExpiring_answers` : when the check of any token answers, and what;
* `Grant.isExpiring_fails` : two buffers for which it fails.
-/

namespace PasswordGrant

/-! ### Beyond the range of instants -/

/-- A number of seconds that leads to no instant leads behind all of them if it is positive, and before all
of them otherwise. -/
theorem Instant.le_iff_of_not_hasAfter {now : Instant} {s : Int} (h : ¬now.HasAfter s) (goal : Instant) :
    goal.toMoment ≤ now.shift s ↔ 0 < s := by
  have hnow := now.not_too_early
  have hnow' := now.not_too_late
  have hgoal := goal.not_too_early
  have hgoal' := goal.not_too_late
  have hshift := now.seconds_shift s
  have hout : ¬(-8334601228800 ≤ (now.shift s).seconds ∧ (now.shift s).seconds < 8210266876800) := by
    intro hrange
    exact h ⟨⟨_, Nat.lt_of_le_of_lt (now.nanos_shift_le s) now.nanos_lt, hrange.1, hrange.2⟩, rfl⟩
  rw [Moment.le_iff]
  constructor
  · intro hreached
    omega
  · intro hpositive
    omega

/-! ### The check -/

namespace Grant

variable {g : Grant} {expiry : Instant}

/-- A token expires within a buffer of seconds: it has an expiry, and that is not later than so many seconds
from now. -/
def ExpiresWithin (g : Grant) (buffer : Int) (now : Instant) : Prop :=
  ∃ expiry, g.expiresAt = some expiry ∧ expiry.toMoment ≤ now.shift buffer

theorem expiresWithin_iff (hexpiry : g.expiresAt = some expiry) (buffer : Int) (now : Instant) :
    g.ExpiresWithin buffer now ↔ expiry.toMoment ≤ now.shift buffer := by
  constructor
  · rintro ⟨t, ht, hreached⟩
    rw [hexpiry] at ht
    cases ht
    exact hreached
  · intro hreached
    exact ⟨expiry, hexpiry, hreached⟩

theorem not_expiresWithin (hexpiry : g.expiresAt = none) (buffer : Int) (now : Instant) :
    ¬g.ExpiresWithin buffer now := by
  rintro ⟨t, ht, -⟩
  rw [hexpiry] at ht
  cases ht

theorem isExpiring_of_no_expiry (hexpiry : g.expiresAt = none) (buffer : Int) (now : Instant) :
    g.isExpiring buffer now = .ok false := by
  rw [isExpiring, hexpiry]

/-- A token with an expiry and a buffer that ends at an instant: the check answers, and exactly. -/
theorem isExpiring_of_hasAfter {buffer : Int} {now : Instant} (hexpiry : g.expiresAt = some expiry)
    (hafter : now.HasAfter buffer) :
    g.isExpiring buffer now = .ok (decide (expiry.toMoment ≤ now.shift buffer)) := by
  rw [isExpiring, hexpiry]
  exact Instant.reaches_of_hasAfter hafter expiry

/-- A token with an expiry and a buffer that ends at no instant: the check fails. -/
theorem isExpiring_of_not_hasAfter {buffer : Int} {now : Instant} (hexpiry : g.expiresAt = some expiry)
    (hafter : ¬now.HasAfter buffer) :
    g.isExpiring buffer now = .error
      (if buffer < -Instant.spanLimit ∨ Instant.spanLimit < buffer then .span else .instant) := by
  rw [isExpiring, hexpiry]
  exact Instant.reaches_of_not_hasAfter hafter expiry

/-- Where the check answers, it answers the exact question. -/
theorem isExpiring_eq_ok_iff (g : Grant) (buffer : Int) (now : Instant) (expiring : Bool) :
    g.isExpiring buffer now = .ok expiring ↔
      (g.expiresAt = none ∨ now.HasAfter buffer) ∧ (expiring = true ↔ g.ExpiresWithin buffer now) := by
  cases hexpiry : g.expiresAt with
  | none =>
    have hnever := not_expiresWithin hexpiry buffer now
    rw [isExpiring_of_no_expiry hexpiry]
    simp [hnever, eq_comm]
  | some expiry =>
    by_cases hafter : now.HasAfter buffer
    case pos =>
      rw [isExpiring_of_hasAfter hexpiry hafter, expiresWithin_iff hexpiry, Except.ok.injEq]
      constructor
      · rintro rfl
        exact ⟨.inr hafter, decide_eq_true_iff⟩
      · rintro ⟨-, hexact⟩
        rw [Bool.eq_iff_iff, decide_eq_true_iff, hexact]
    case neg =>
      rw [isExpiring_of_not_hasAfter hexpiry hafter]
      constructor
      · intro hanswers
        cases hanswers
      · rintro ⟨hnone | hinstant, -⟩
        · cases hnone
        · exact absurd hinstant hafter

/-- Where the check fails, the length of the buffer tells the cause. -/
theorem isExpiring_eq_error_iff (g : Grant) (buffer : Int) (now : Instant) (cause : Instant.OutOfRange) :
    g.isExpiring buffer now = .error cause ↔
      (g.expiresAt ≠ none ∧ ¬now.HasAfter buffer) ∧
        (cause = .span ↔ buffer < -Instant.spanLimit ∨ Instant.spanLimit < buffer) := by
  cases hexpiry : g.expiresAt with
  | none =>
    rw [isExpiring_of_no_expiry hexpiry]
    simp
  | some expiry =>
    by_cases hafter : now.HasAfter buffer
    case pos =>
      rw [isExpiring_of_hasAfter hexpiry hafter]
      simp [hafter]
    case neg =>
      rw [isExpiring_of_not_hasAfter hexpiry hafter, Except.error.injEq]
      by_cases hlong : buffer < -Instant.spanLimit ∨ Instant.spanLimit < buffer
      · rw [if_pos hlong]
        simp [hafter, hlong, eq_comm]
      · rw [if_neg hlong]
        cases cause with
        | span => simp [hlong]
        | instant => simp [hafter, hlong]

theorem expiresWithin_iff_of_not_hasAfter {buffer : Int} {now : Instant} (hexpiry : g.expiresAt ≠ none)
    (hafter : ¬now.HasAfter buffer) : g.ExpiresWithin buffer now ↔ 0 < buffer := by
  obtain ⟨expiry, hsome⟩ := Option.ne_none_iff_exists'.mp hexpiry
  rw [expiresWithin_iff hsome]
  exact Instant.le_iff_of_not_hasAfter hafter expiry

/-- The check answers exactly if the token has no expiry or there is an instant at which the buffer ends, and
it answers what the comparison of moments answers. In every other case it fails, with the length of
the buffer as the cause if that is longer than any span and else with the range of instants; and then the
token expires within the buffer exactly if the buffer is positive. -/
theorem isExpiring_answers (g : Grant) (buffer : Int) (now : Instant) :
    (∀ expiring, g.isExpiring buffer now = .ok expiring ↔
      (g.expiresAt = none ∨ now.HasAfter buffer) ∧ (expiring = true ↔ g.ExpiresWithin buffer now)) ∧
    (∀ cause, g.isExpiring buffer now = .error cause ↔
      (g.expiresAt ≠ none ∧ ¬now.HasAfter buffer) ∧
        (cause = .span ↔ buffer < -Instant.spanLimit ∨ Instant.spanLimit < buffer)) ∧
    (g.expiresAt ≠ none → ¬now.HasAfter buffer → (g.ExpiresWithin buffer now ↔ 0 < buffer)) :=
  ⟨isExpiring_eq_ok_iff g buffer now, isExpiring_eq_error_iff g buffer now,
    expiresWithin_iff_of_not_hasAfter⟩

/-- A token that lives for five minutes expires within the largest number of seconds that fits into 64 bits, and
in the last second of all, when it is long past its expiry, it expires within one second more; but neither can
be checked. -/
theorem isExpiring_fails :
    let g := (new "tok" "sess" Instant.epoch).withLifetime (some 300)
    let last : Instant := ⟨⟨8210266876799, 0⟩, by decide, by decide, by decide⟩
    (g.ExpiresWithin 9223372036854775807 Instant.epoch ∧
      ∀ expiring, g.isExpiring 9223372036854775807 Instant.epoch ≠ .ok expiring) ∧
    g.ExpiresWithin 1 last ∧ ∀ expiring, g.isExpiring 1 last ≠ .ok expiring := by
  intro g last
  have hexpiry : g.expiresAt = some ⟨⟨300, 0⟩, by decide, by decide, by decide⟩ := rfl
  refine ⟨⟨⟨_, hexpiry, by decide⟩, ?_⟩, ⟨_, hexpiry, by decide⟩, ?_⟩
  · intro expiring h
    cases h
  · intro expiring h
    cases h

end Grant

end PasswordGrant
