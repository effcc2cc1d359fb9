import PasswordGrant.Proofs.Expiry
import PasswordGrant.Proofs.TokenPreview

/-!
# Lifetimes

A server states lifetimes in seconds, and a grant keeps instants. A lifetime of a number of seconds ends at
the instant exactly so many seconds later, if there is such an instant; a missing lifetime and one of zero
end at none, and so does the lifetime of a refresh token that is missing or empty. Nothing on the way can
go wrong. The way back from instants to seconds, which observers are told, loses nothing either, except that
a lifetime which begins in a leap second may come back one second short.

* `Instant.secondsUntil_bounded` : no two instants are too far apart;
* `Instant.IsEndOf` : where a lifetime ends; `Grant.expiryAfter_eq_some_iff` : that end is found;
* `TokenResponse.Lifetimes` : a grant with the ends of the lifetimes of an answer;
* `TokenResponse.toGrant_lifetimes` : the grant of every answer is one, and observers are told its
  lifetime;
* `TokenResponse.lifetime_told_short` : the lifetime that is told in a leap second.
-/

namespace PasswordGrant

/-! ### Instants apart from each other -/

namespace Instant

/-- The whole seconds between two instants are within the limits of spans. -/
theorem secondsUntil_bounded (now later : Instant) :
    -spanLimit ≤ now.secondsUntil later ∧ now.secondsUntil later ≤ spanLimit := by
  have hnow := now.not_too_early
  have hnow' := now.not_too_late
  have hlater := later.not_too_early
  have hlater' := later.not_too_late
  have hnanos := now.nanos_lt
  have hnanos' := later.nanos_lt
  have hspan := now.nanosUntil_bounded later.toMoment
  rw [spanLimit]
  rcases secondsUntil_spec now later with ⟨-, hdown, hnext⟩ | ⟨-, hup, hbefore⟩
  · omega
  · omega

/-- An instant is the end of a lifetime: there is a lifetime, of one second or more, and the instant is
exactly so much later than its beginning. -/
def IsEndOf (t : Instant) (lifetime : Option Nat) (start : Instant) : Prop :=
  ∃ s : Nat, lifetime = some s ∧ 0 < s ∧ t.toMoment = start.shift s

end Instant

/-- The end of a lifetime is found if there is one, and nothing else is. -/
theorem Grant.expiryAfter_eq_some_iff {lifetime : Option Nat} {start t : Instant} :
    (lifetime.filter fun s => decide (0 < s)).bind (expiryAfter start) = some t
      ↔ t.IsEndOf lifetime start := by
  rw [Option.bind_eq_some_iff]
  simp only [Option.filter_eq_some_iff, decide_eq_true_iff, expiryAfter,
    Instant.addSeconds?_eq_some_iff, and_assoc]
  exact Iff.rfl

/-! ### The lifetimes of an answer -/

namespace TokenResponse

/-- A grant holds the ends of the lifetimes that an answer states, where there are such ends, and no other
instants. -/
structure Lifetimes (r : TokenResponse) (now : Instant) (g : Grant) : Prop where
  expiresAt : ∀ t, g.expiresAt = some t ↔ t.IsEndOf r.expiresIn now
  refreshExpiresAt : ∀ t, g.refreshExpiresAt = some t ↔
    (∃ token, r.refreshToken = some token ∧ token ≠ "") ∧ t.IsEndOf r.refreshExpiresIn now
  later : ∀ t, g.expiresAt = some t → g.obtainedAt.toMoment < t.toMoment

theorem lifetimes_toGrant (r : TokenResponse) (now : Instant) : Lifetimes r now (r.toGrant now) := by
  have hexpires : ∀ t, (r.toGrant now).expiresAt = some t ↔ t.IsEndOf r.expiresIn now := by
    intro t
    rw [expiresAt_toGrant, Grant.expiryAfter_eq_some_iff]
  refine ⟨hexpires, fun t => ?_, fun t ht => ?_⟩
  · rw [refreshExpiresAt_toGrant, Option.ite_none_right_eq_some, Grant.expiryAfter_eq_some_iff,
      Option.isSome_filter]
    refine and_congr_left fun _ => ?_
    simp [Option.any_eq_true]
  · obtain ⟨s, -, hpositive, hlater⟩ := (hexpires t).mp ht
    rw [obtainedAt_toGrant, hlater, Moment.shift_of_pos (by omega) now.nanos_lt, Moment.lt_iff]
    exact .inl (by dsimp only; omega)

/-- Observers are told the lifetime that was stated, if it has an end, less the second that is lost. -/
theorem lifetimeTold_eq (r : TokenResponse) (now : Instant) : RealmClient.lifetimeTold now r
    = (r.toGrant now).expiresAt.bind fun t => r.expiresIn.map fun s => s - now.secondLost t := by
  rw [RealmClient.lifetimeTold, ← expiresAt_toGrant]
  cases hexpiry : (r.toGrant now).expiresAt with
  | none => rfl
  | some t =>
    obtain ⟨s, hs, hpositive, hlater⟩ := ((lifetimes_toGrant r now).expiresAt t).mp hexpiry
    have hlost := now.secondLost_le_one t
    have hseconds : now.secondsUntil t = (s - now.secondLost t : Nat) := by
      rw [Instant.secondsUntil_of_later hlater (by omega)]
      omega
    rw [Option.map_some, Option.bind_some, hseconds, if_pos (Int.natCast_nonneg _), hs]
    rfl

end TokenResponse

/-! ### What observers are told -/

theorem RealmClient.getLast?_events_of_obtained {c : RealmClient} {user : Credentials} {now : Instant}
    {e : Exchange} {g : Grant} (h : (c.authenticate user now e).result = .ok g) :
    (c.authenticate user now e).events.getLast? = some (finalEvent (.ok g)) := by
  rw [authenticate] at h ⊢
  cases haddress : c.authenticateUrl user with
  | error f =>
    rw [haddress] at h
    cases h
  | ok url =>
    simp only [haddress] at h ⊢
    rw [h]
    rfl

namespace TokenResponse

/-- The grant of every answer holds the ends of its lifetimes and no other instants, and the token expires
after it was obtained. The way back to seconds is never too long for a span. An attempt that obtains the
grant tells the lifetime of the token that the answer states, if that has an end, and else none: the very
lifetime, unless the token was obtained in a leap second, and then one second may be lost. -/
theorem toGrant_lifetimes (r : TokenResponse) (now : Instant) :
    Lifetimes r now (r.toGrant now) ∧
    (∀ later : Instant, -Instant.spanLimit ≤ now.secondsUntil later ∧
      now.secondsUntil later ≤ Instant.spanLimit) ∧
    ∀ (c : RealmClient) (user : Credentials) (e : Exchange),
      (c.authenticate user now e).result = .ok (r.toGrant now) →
        ∃ told, (c.authenticate user now e).events.getLast?
            = some (.tokenObtained r.sessionId (Event.preview r.accessToken) told) ∧
          ((r.toGrant now).expiresAt = none → told = none) ∧
          ∀ t, (r.toGrant now).expiresAt = some t →
            told = if now.IsLeap ∧ t.timeOfDay ≤ now.timeOfDay then r.expiresIn.map fun s => s - 1
              else r.expiresIn := by
  refine ⟨lifetimes_toGrant r now, Instant.secondsUntil_bounded now, fun c user e hobtained => ?_⟩
  refine ⟨RealmClient.lifetimeTold now r, ?_, fun hnever => ?_, fun t hexpiry => ?_⟩
  · rw [RealmClient.getLast?_events_of_obtained hobtained, RealmClient.finalEvent_toGrant]
  · rw [lifetimeTold_eq, hnever]
    rfl
  · rw [lifetimeTold_eq, hexpiry, Option.bind_some, Instant.secondLost]
    split
    · rfl
    · simp only [Nat.sub_zero, Option.map_id_fun', id_eq]

/-- A lifetime up to the last second that there is, and for the refresh token the largest number that can
be stated. -/
theorem lifetimes_of_last_second :
    let r : TokenResponse :=
      ⟨"a", some 8210266876799, some "b", some 18446744073709551615, none, none, none⟩
    let body := Utf8.encode ("\x7b\"access_token\":\"a\",\"expires_in\":8210266876799,"
      ++ "\"refresh_token\":\"b\",\"refresh_expires_in\":18446744073709551615\x7d").toList
    let report := (RealmClient.ofPublic "http://host" "r" "web").authenticate ⟨"u", "p", ""⟩
      Instant.epoch (.answered 200 body)
    report.result = .ok (r.toGrant Instant.epoch) ∧
      (r.toGrant Instant.epoch).expiresAt
        = some ⟨⟨8210266876799, 0⟩, by decide, by decide, by decide⟩ ∧
      (r.toGrant Instant.epoch).refreshExpiresAt = none ∧
      report.events.getLast? = some (.tokenObtained "" "a" (some 8210266876799)) := by
  intro r body report
  obtain ⟨hlifetimes, -, htold⟩ := toGrant_lifetimes r Instant.epoch
  have hobtained : report.result = .ok (r.toGrant Instant.epoch) := eq_ok_of_toOption (by decide +kernel)
  have hexpires := (hlifetimes.expiresAt ⟨⟨8210266876799, 0⟩, by decide, by decide, by decide⟩).mpr
    ⟨8210266876799, rfl, by decide, by decide⟩
  refine ⟨hobtained, hexpires, ?_, ?_⟩
  · -- the end would lie behind the last instant
    refine Option.eq_none_iff_forall_ne_some.mpr fun t ht => ?_
    obtain ⟨-, q, hq, -, hlater⟩ := (hlifetimes.refreshExpiresAt t).mp ht
    cases hq
    have hlast := t.not_too_late
    rw [hlater] at hlast
    exact absurd hlast (by decide +kernel)
  · have hsession : r.sessionId = "" := by decide +kernel
    have hpreview : Event.preview r.accessToken = "a" := by decide
    obtain ⟨told, hevent, -, hvalue⟩ := htold _ _ _ hobtained
    have hlifetime : told = some 8210266876799 := by
      rw [hvalue _ hexpires, if_neg (fun hleap => absurd hleap.1 (by decide))]
    rw [hsession, hpreview, hlifetime] at hevent
    exact hevent

/-- A token that is obtained in the leap second at the end of 2016 and lives for 300 seconds: its expiry is
300 seconds later, but observers are told a lifetime of 299. -/
theorem lifetime_told_short :
    let r : TokenResponse := ⟨"a", some 300, none, none, none, none, none⟩
    let leap : Instant := ⟨⟨1483228799, 1000000000⟩, by decide, by decide, by decide⟩
    let report := (RealmClient.ofPublic "http://host" "r" "web").authenticate ⟨"u", "p", ""⟩ leap
      (.answered 200 (Utf8.encode "\x7b\"access_token\":\"a\",\"expires_in\":300\x7d".toList))
    report.result = .ok (r.toGrant leap) ∧
      (r.toGrant leap).expiresAt = some ⟨⟨1483229099, 0⟩, by decide, by decide, by decide⟩ ∧
      report.events.getLast? = some (.tokenObtained "" "a" (some 299)) := by
  intro r leap report
  have hobtained : report.result = .ok (r.toGrant leap) := eq_ok_of_toOption (by decide +kernel)
  exact ⟨hobtained, by decide, by decide +kernel⟩

end TokenResponse

end PasswordGrant
