import PasswordGrant.Proofs.Outcome
import PasswordGrant.Proofs.TokenGrant

/-!
# What is shown of a token

Observers are shown a preview of an access token, and nothing of a refresh token. The preview of a long
token is its beginning; a short one is its own preview. So two answers that differ only in their tokens
look the same to observers, and in the log, exactly if the previews are the same: long tokens with the
same beginning do, short tokens do not.

* `Event.preview_eq_iff` : which tokens have the same preview;
* `TokenResponse.SameButTokens` : answers that differ in their tokens at most;
* `RealmClient.authenticate_successful` : an attempt that is answered with success;
* `RealmClient.events_eq_iff_preview` : what observers are told of two answers.
-/

namespace PasswordGrant

/-! ### Previews -/

namespace Event

variable {a b : String}

theorem preview_of_short (h : a.toList.length ≤ 12) : preview a = a := by
  rw [preview, if_pos h]

theorem toList_preview_of_long (h : 12 < a.toList.length) :
    (preview a).toList = a.toList.take 8 ++ ['.', '.', '.'] := by
  rw [preview, if_neg (by omega), String.toList_ofList]
  rfl

theorem length_preview_le (a : String) : (preview a).toList.length ≤ 12 := by
  by_cases h : a.toList.length ≤ 12
  · rwa [preview_of_short h]
  · rw [toList_preview_of_long (by omega), List.length_append, List.length_take]
    show min 8 a.toList.length + 3 ≤ 12
    omega

/-- Long tokens have the same preview if they begin alike. A short token has the preview of no other
token, unless that token's preview is the short one itself. -/
theorem preview_eq_iff (a b : String) : preview a = preview b ↔
    (12 < a.toList.length ∧ 12 < b.toList.length ∧ a.toList.take 8 = b.toList.take 8) ∨
      a = preview b ∨ b = preview a := by
  have hshort : ∀ {a b : String}, a = preview b → preview a = a := by
    intro a b h
    refine preview_of_short ?_
    rw [h]
    exact length_preview_le b
  constructor
  · intro h
    by_cases ha : a.toList.length ≤ 12
    · rw [preview_of_short ha] at h
      exact .inr (.inl h)
    by_cases hb : b.toList.length ≤ 12
    · rw [preview_of_short hb] at h
      exact .inr (.inr h.symm)
    have hchars := congrArg String.toList h
    rw [toList_preview_of_long (by omega), toList_preview_of_long (by omega)] at hchars
    exact .inl ⟨by omega, by omega, List.append_cancel_right hchars⟩
  · rintro (⟨ha, hb, hbegin⟩ | h | h)
    · apply String.toList_inj.mp
      rw [toList_preview_of_long ha, toList_preview_of_long hb, hbegin]
    · rw [hshort h, h]
    · rw [hshort h, h]

end Event

/-! ### Answers -/

/-- Answers that differ in their tokens at most. -/
structure TokenResponse.SameButTokens (r q : TokenResponse) : Prop where
  expiresIn : r.expiresIn = q.expiresIn
  refreshExpiresIn : r.refreshExpiresIn = q.refreshExpiresIn
  tokenType : r.tokenType = q.tokenType
  sessionState : r.sessionState = q.sessionState
  scope : r.scope = q.scope

theorem TokenResponse.sessionId_of_sessionState {r : TokenResponse} {s : String}
    (h : r.sessionState = some s) (hs : s.isEmpty = false) : r.sessionId = s := by
  rw [sessionId, h, Option.filter_some, hs]
  rfl

namespace RealmClient

/-- What is told of the lifetime of an answer. -/
def lifetimeTold (now : Instant) (r : TokenResponse) : Option Nat :=
  (((r.expiresIn.filter fun s => decide (0 < s)).bind (Grant.expiryAfter now)).map
    now.secondsUntil).bind fun s => if 0 ≤ s then some s.toNat else none

theorem finalEvent_toGrant (r : TokenResponse) (now : Instant) : finalEvent (.ok (r.toGrant now))
    = .tokenObtained r.sessionId (Event.preview r.accessToken) (lifetimeTold now r) := by
  rw [finalEvent, TokenResponse.sessionId_toGrant, TokenResponse.accessToken_toGrant,
    TokenResponse.obtainedAt_toGrant, Grant.secondsUntilExpiry, TokenResponse.expiresAt_toGrant]
  rfl

end RealmClient

/-! ### Attempts -/

/-- A request that is answered with success comes back with the body, whatever that is, unless it never
arrives. -/
theorem Request.perform_successful (what : String) (r : Request) {status : Nat}
    (h : 200 ≤ status ∧ status ≤ 299) :
    (∀ bytes, r.perform what (.answered status bytes) = (.ok (textOf bytes), [r])) ∨
      ∃ f, ∀ bytes, r.perform what (.answered status bytes) = (.error f, []) := by
  cases hsendable : r.unsendable? with
  | some f => exact .inr ⟨f, fun bytes => by rw [perform, hsendable]⟩
  | none =>
    refine .inl fun bytes => ?_
    simp only [perform, hsendable, outcome_successful h]
    rfl

namespace RealmClient

/-- An attempt that is answered with success tells what the body says, whatever that is, unless its
request never arrives. -/
theorem authenticate_successful (c : RealmClient) (user : Credentials) (now : Instant) {status : Nat}
    (h : 200 ≤ status ∧ status ≤ 299) :
    (∃ url, ∀ bytes, c.authenticate user now (.answered status bytes)
      = ⟨grantOf now (Request.textOf bytes), [c.tokenRequest user url],
          [.started c.realm user.username, .requestSent url.text,
            finalEvent (grantOf now (Request.textOf bytes))]⟩) ∨
      ∃ report : Report Grant, report.requests = [] ∧
        ∀ bytes, c.authenticate user now (.answered status bytes) = report := by
  cases haddress : c.authenticateUrl user with
  | error f =>
    refine .inr ⟨⟨.error f, [], [.started c.realm user.username, .failed f]⟩, rfl, fun bytes => ?_⟩
    rw [authenticate, haddress]
  | ok url =>
    rcases Request.perform_successful "token response" (c.tokenRequest user url) h with
      hbody | ⟨f, hlost⟩
    · refine .inl ⟨url, fun bytes => ?_⟩
      simp only [authenticate, haddress, hbody]
      rfl
    · refine .inr ⟨⟨.error f, [], [.started c.realm user.username, .requestSent url.text, .failed f]⟩,
        rfl, fun bytes => ?_⟩
      simp only [authenticate, haddress, hlost]
      rfl

/-- A body that is read tells the session that it states, the preview of its access token and its
lifetime. -/
theorem finalEvent_of_parse (now : Instant) {body session : String} {r : TokenResponse}
    (hr : TokenResponse.parse body = .ok r) (hsession : r.sessionState = some session)
    (hnamed : session.isEmpty = false) : finalEvent (grantOf now body)
      = .tokenObtained session (Event.preview r.accessToken) (lifetimeTold now r) := by
  have hgrant : grantOf now body = .ok (r.toGrant now) := by
    rw [grantOf, hr]
    rfl
  rw [hgrant, finalEvent_toGrant, TokenResponse.sessionId_of_sessionState hsession hnamed]

/-- Two answers that differ only in their tokens, and state the same session, look the same to observers
exactly if they never arrive or their access tokens have the same preview, and so they do in the log.
Nothing depends on the refresh tokens. Access tokens with more than 12 characters have the same preview if
they begin with the same 8; a shorter one has it with no other token but one whose preview it is. -/
theorem events_eq_iff_preview (c : RealmClient) (user : Credentials) (now : Instant) {status : Nat}
    {x y : List UInt8} {r q : TokenResponse} {session : String} (hstatus : 200 ≤ status ∧ status ≤ 299)
    (hr : TokenResponse.parse (Request.textOf x) = .ok r)
    (hq : TokenResponse.parse (Request.textOf y) = .ok q) (h : r.SameButTokens q)
    (hsession : r.sessionState = some session) (hnamed : session.isEmpty = false) :
    ((c.authenticate user now (.answered status x)).events
        = (c.authenticate user now (.answered status y)).events ↔
      (c.authenticate user now (.answered status x)).requests = [] ∨
        Event.preview r.accessToken = Event.preview q.accessToken) ∧
    ((c.authenticate user now (.answered status x)).events.map Event.log
        = (c.authenticate user now (.answered status y)).events.map Event.log ↔
      (c.authenticate user now (.answered status x)).requests = [] ∨
        Event.preview r.accessToken = Event.preview q.accessToken) ∧
    (Event.preview r.accessToken = Event.preview q.accessToken ↔
      (12 < r.accessToken.toList.length ∧ 12 < q.accessToken.toList.length ∧
        r.accessToken.toList.take 8 = q.accessToken.toList.take 8) ∨
      r.accessToken = Event.preview q.accessToken ∨ q.accessToken = Event.preview r.accessToken) := by
  have hx := finalEvent_of_parse now hr hsession hnamed
  have hy := finalEvent_of_parse now hq (h.sessionState ▸ hsession) hnamed
  have hlifetime : lifetimeTold now q = lifetimeTold now r := by
    rw [lifetimeTold, lifetimeTold, h.expiresIn]
  rw [hlifetime] at hy
  rcases authenticate_successful c user now hstatus with ⟨url, htold⟩ | ⟨report, hsilent, hsame⟩
  · -- the last event is the only one that could differ, and the preview the only part of it
    rw [htold, htold, hx, hy]
    refine ⟨?_, ?_, Event.preview_eq_iff _ _⟩
    · simp only [List.cons.injEq, Event.tokenObtained.injEq, and_true, true_and, reduceCtorEq,
        false_or]
    · simp only [List.map_cons, List.map_nil, Event.log, List.cons.injEq, LogRecord.mk.injEq,
        Prod.mk.injEq, and_true, true_and, reduceCtorEq, false_or]
  · rw [hsame, hsame, hsilent]
    simp only [true_or, true_and]
    exact Event.preview_eq_iff _ _

/-- The body of an answer with given tokens that states a session. -/
def bodyOf (accessToken refreshToken : String) : List UInt8 :=
  Utf8.encode ("\x7b\"access_token\":\"" ++ accessToken ++ "\",\"refresh_token\":\"" ++ refreshToken
    ++ "\",\"session_state\":\"s\"\x7d").toList

/-- Long tokens that begin alike look the same. -/
theorem events_eq_of_long_tokens :
    let seen (accessToken refreshToken : String) :=
      ((RealmClient.ofPublic "http://host" "r" "web").authenticate ⟨"u", "p", ""⟩ Instant.epoch
        (.answered 200 (bodyOf accessToken refreshToken))).events
    seen "abcdefgh12345" "r1" = seen "abcdefgh67890" "r2" := by
  intro seen
  have hr : TokenResponse.parse (Request.textOf (bodyOf "abcdefgh12345" "r1"))
      = .ok ⟨"abcdefgh12345", none, some "r1", none, none, some "s", none⟩ :=
    eq_ok_of_toOption (by decide +kernel)
  have hq : TokenResponse.parse (Request.textOf (bodyOf "abcdefgh67890" "r2"))
      = .ok ⟨"abcdefgh67890", none, some "r2", none, none, some "s", none⟩ :=
    eq_ok_of_toOption (by decide +kernel)
  obtain ⟨hevents, -, hpreview⟩ := events_eq_iff_preview
    (RealmClient.ofPublic "http://host" "r" "web") ⟨"u", "p", ""⟩ Instant.epoch
    (show 200 ≤ 200 ∧ 200 ≤ 299 by decide) hr hq ⟨rfl, rfl, rfl, rfl, rfl⟩ rfl (by decide)
  exact hevents.mpr (.inr (hpreview.mpr (.inl (by decide))))

/-- Tokens of nine characters that begin with the same eight are told, and logged, as they are. -/
theorem events_show_short_token :
    let report (accessToken : String) :=
      (RealmClient.ofPublic "http://host" "r" "web").authenticate ⟨"u", "p", ""⟩ Instant.epoch
        (.answered 200 (bodyOf accessToken ""))
    "abcdefgh1".toList.take 8 = "abcdefgh2".toList.take 8 ∧
      (report "abcdefgh1").events.getLast? = some (.tokenObtained "s" "abcdefgh1" none) ∧
      (report "abcdefgh2").events.getLast? = some (.tokenObtained "s" "abcdefgh2" none) ∧
      (report "abcdefgh1").events ≠ (report "abcdefgh2").events ∧
      (report "abcdefgh1").events.map Event.log ≠ (report "abcdefgh2").events.map Event.log := by
  intro report
  have hone : (report "abcdefgh1").events.getLast? = some (.tokenObtained "s" "abcdefgh1" none) := by
    decide +kernel
  have htwo : (report "abcdefgh2").events.getLast? = some (.tokenObtained "s" "abcdefgh2" none) := by
    decide +kernel
  refine ⟨by decide, hone, htwo, fun hsame => ?_, fun hsame => ?_⟩
  · rw [hsame, htwo] at hone
    exact absurd hone (by decide)
  · have hlast := congrArg List.getLast? hsame
    rw [List.getLast?_map, List.getLast?_map, hone, htwo] at hlast
    exact absurd hlast (by decide)

end RealmClient

end PasswordGrant
