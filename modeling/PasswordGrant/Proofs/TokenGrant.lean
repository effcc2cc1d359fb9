import PasswordGrant.Operations
import PasswordGrant.Proofs.Building
import PasswordGrant.Proofs.Except

/-!
# The grant of a token response

What a grant takes over from the answer that it stands for. An answer is read only if it has a token, so
that every grant that comes out of a body has one, and none of them is a failure.

* `TokenResponse.toGrant_eq` : the steps in which it is built;
* `TokenResponse.accessToken_toGrant`, `TokenResponse.sessionId_toGrant`,
  `TokenResponse.failure_toGrant`, `TokenResponse.obtainedAt_toGrant`,
  `TokenResponse.expiresAt_toGrant`, `TokenResponse.refreshExpiresAt_toGrant` : field by field;
* `TokenResponse.accessToken_ne_empty` : what is read has a token;
* `RealmClient.exists_response` : the answer behind a grant.
-/

namespace PasswordGrant

namespace TokenResponse

variable {r : TokenResponse} {now : Instant}

/-- The grant of an answer is built from its token in four steps. -/
theorem toGrant_eq (r : TokenResponse) (now : Instant) : r.toGrant now
    = Grant.build
        [.tokenType (r.tokenType.getD ""), .lifetime (r.expiresIn.filter fun s => decide (0 < s)),
          .refreshToken r.refreshToken r.refreshExpiresIn, .scope r.scope]
        (Grant.new r.accessToken r.sessionId now) := rfl

/-- The token of a grant is that of the answer. -/
theorem accessToken_toGrant (r : TokenResponse) (now : Instant) :
    (r.toGrant now).accessToken = r.accessToken := by
  rw [toGrant_eq, Grant.build_eq]
  rfl

/-- The session of a grant is that of the answer. -/
theorem sessionId_toGrant (r : TokenResponse) (now : Instant) :
    (r.toGrant now).sessionId = r.sessionId := by
  rw [toGrant_eq, Grant.build_eq]
  rfl

/-- An answer never stands for a failure. -/
theorem failure_toGrant (r : TokenResponse) (now : Instant) : (r.toGrant now).failure = none := by
  rw [toGrant_eq, Grant.build_eq]
  rfl

/-- The grant of an answer was obtained when the answer arrived. -/
theorem obtainedAt_toGrant (r : TokenResponse) (now : Instant) : (r.toGrant now).obtainedAt = now := by
  rw [toGrant_eq, Grant.build_eq]
  rfl

/-- Its token expires when the lifetime of the answer is over, if that is a lifetime. -/
theorem expiresAt_toGrant (r : TokenResponse) (now : Instant) :
    (r.toGrant now).expiresAt
      = (r.expiresIn.filter fun s => decide (0 < s)).bind (Grant.expiryAfter now) := by
  rw [toGrant_eq, Grant.build_eq]
  rfl

/-- Its refresh token, if it is one, expires when its own lifetime is over, if that is a lifetime. -/
theorem refreshExpiresAt_toGrant (r : TokenResponse) (now : Instant) :
    (r.toGrant now).refreshExpiresAt
      = if (r.refreshToken.filter fun t => !t.isEmpty).isSome then
          (r.refreshExpiresIn.filter fun s => decide (0 < s)).bind (Grant.expiryAfter now)
        else none := by
  rw [toGrant_eq, Grant.build_eq]
  rfl

/-- An answer without a token is not read. -/
theorem accessToken_ne_empty {body : String} (h : parse body = .ok r) : r.accessToken ≠ "" := by
  unfold parse at h
  split at h
  · cases h
  · dsimp only at h
    split at h
    case isTrue => cases h
    case isFalse hnonempty =>
      cases h
      intro hempty
      apply hnonempty
      rw [hempty]
      rfl

end TokenResponse

/-- A grant that comes out of a body is the grant of an answer with a token. -/
theorem RealmClient.exists_response {now : Instant} {body : Except Failure String} {g : Grant}
    (h : body.bind (grantOf now) = .ok g) :
    ∃ r : TokenResponse, g = r.toGrant now ∧ r.accessToken ≠ "" := by
  obtain ⟨text, -, hgrant⟩ := bind_eq_ok.mp h
  obtain ⟨r, hr, rfl⟩ := map_eq_ok.mp hgrant
  exact ⟨r, rfl, TokenResponse.accessToken_ne_empty hr⟩

end PasswordGrant
