import PasswordGrant.Grant

/-!
# Building a grant

A grant is built step by step, and a step of one kind may come several times. No step touches where the
grant comes from. Of the steps of one kind the last one counts, and the others leave nothing behind: not
even an expiry that belonged to an earlier refresh token. A blank token type is no token type, so such a
step does not count. So only the order among steps of the same kind matters.

* `Grant.Update` : the steps; `Grant.build` : steps one after the other;
* `Grant.last` : what was given last; `Grant.apply_eq`, `Grant.build_eq` : what one step changes, and what
  all of them leave;
* `Grant.SameOrder` : the same steps, with those of each kind in the same order;
* `Grant.WellFormed` : what holds after any step;
* `Grant.build_spec` : what steps make of a bare token or a failure.
-/

namespace PasswordGrant.Grant

/-! ### Steps -/

/-- A step in building a grant. -/
inductive Update where
  | tokenType (tokenType : String)
  | lifetime (lifetime : Option Nat)
  | refreshToken (token : Option String) (lifetime : Option Nat)
  | scope (scope : Option String)
  deriving DecidableEq, Repr

def Update.apply : Update → Grant → Grant
  | tokenType t, g => g.withTokenType t
  | lifetime l, g => g.withLifetime l
  | refreshToken t l, g => g.withRefreshToken t l
  | scope s, g => g.withScope s

/-- What steps make of a grant, one after the other. -/
def build (us : List Update) (g : Grant) : Grant := us.foldl (fun g u => u.apply g) g

theorem build_cons (u : Update) (us : List Update) (g : Grant) :
    build (u :: us) g = build us (u.apply g) := rfl

/-- How a grant begins. -/
inductive Beginning where
  | token (accessToken sessionId : String)
  | failure (f : Failure)
  deriving DecidableEq, Repr

def Beginning.grant (now : Instant) : Beginning → Grant
  | token accessToken sessionId => new accessToken sessionId now
  | failure f => failed f now

/-! ### What steps give -/

namespace Update

/-- The token type that a step gives, unless it is blank. -/
def tokenType? : Update → Option String
  | tokenType t => if Text.isBlankText t then none else some t
  | _ => none

def lifetime? : Update → Option (Option Nat)
  | lifetime l => some l
  | _ => none

/-- The refresh token that a step gives, with its lifetime. -/
def refresh? : Update → Option (Option String × Option Nat)
  | refreshToken t l => some (t, l)
  | _ => none

def scope? : Update → Option (Option String)
  | scope s => some s
  | _ => none

end Update

/-- The refresh token that is kept of one that is given with a lifetime: an empty one is none. -/
def refreshTokenOf (given : Option String × Option Nat) : Option String :=
  given.1.filter fun t => !t.isEmpty

/-- The end of a refresh token that is given with a lifetime, if the token is kept and the lifetime is
known. -/
def refreshExpiryOf (start : Instant) (given : Option String × Option Nat) : Option Instant :=
  if (refreshTokenOf given).isSome then
    (given.2.filter fun s => decide (0 < s)).bind (expiryAfter start)
  else none

/-- A step sets the parts that it gives something for, and leaves everything else alone. -/
theorem apply_eq (u : Update) (g : Grant) : u.apply g =
    { g with
      tokenType := u.tokenType?.elim g.tokenType id
      expiresAt := u.lifetime?.elim g.expiresAt fun l => l.bind (expiryAfter g.obtainedAt)
      refreshToken := u.refresh?.elim g.refreshToken refreshTokenOf
      refreshExpiresAt := u.refresh?.elim g.refreshExpiresAt (refreshExpiryOf g.obtainedAt)
      scopes := u.scope?.elim g.scopes scopesOf } := by
  cases u with
  | tokenType t =>
    rw [Update.apply, withTokenType, Update.tokenType?]
    split <;> rfl
  | lifetime l => rfl
  | refreshToken t l => rfl
  | scope s => rfl

/-! ### What was given last -/

section

variable {α β : Type} {given? : Update → Option α}

/-- What the steps give last of what a step may give. -/
def last (given? : Update → Option α) (us : List Update) : Option α := (us.filterMap given?).getLast?

theorem elim_last_cons (u : Update) (us : List Update) (old : β) (f : α → β) :
    (last given? (u :: us)).elim old f = (last given? us).elim ((given? u).elim old f) f := by
  rw [last, List.filterMap_cons, last]
  cases given? u with
  | none => rfl
  | some a =>
    rw [List.getLast?_cons]
    cases (us.filterMap given?).getLast? <;> rfl

end

/-- Steps leave what was given last for each part, and everything else alone. -/
theorem build_eq (us : List Update) (g : Grant) : build us g =
    { g with
      tokenType := (last Update.tokenType? us).elim g.tokenType id
      expiresAt := (last Update.lifetime? us).elim g.expiresAt fun l => l.bind (expiryAfter g.obtainedAt)
      refreshToken := (last Update.refresh? us).elim g.refreshToken refreshTokenOf
      refreshExpiresAt := (last Update.refresh? us).elim g.refreshExpiresAt (refreshExpiryOf g.obtainedAt)
      scopes := (last Update.scope? us).elim g.scopes scopesOf } := by
  induction us generalizing g with
  | nil => rfl
  | cons u us ih =>
    rw [build_cons, ih, apply_eq]
    simp only [elim_last_cons]

/-! ### The order of steps -/

/-- The kinds of steps. -/
inductive UpdateKind where
  | tokenType
  | lifetime
  | refreshToken
  | scope
  deriving DecidableEq, Repr

def Update.kind : Update → UpdateKind
  | tokenType _ => .tokenType
  | lifetime _ => .lifetime
  | refreshToken _ _ => .refreshToken
  | scope _ => .scope

/-- The same steps, with those of each kind in the same order. -/
def SameOrder (us vs : List Update) : Prop :=
  ∀ kind, us.filter (fun u => u.kind = kind) = vs.filter fun u => u.kind = kind

theorem SameOrder.last_eq {us vs : List Update} (h : SameOrder us vs) {α : Type}
    {given? : Update → Option α} (kind : UpdateKind)
    (hkind : ∀ u, u.kind ≠ kind → given? u = none) : last given? us = last given? vs := by
  have hfilter : ∀ ws : List Update,
      ws.filterMap given? = (ws.filter fun u => u.kind = kind).filterMap given? := by
    intro ws
    rw [List.filterMap_filter]
    congr 1
    funext u
    by_cases hu : u.kind = kind
    · simp [hu]
    · simp [hu, hkind u hu]
  rw [last, last, hfilter us, hfilter vs, h kind]

/-- Steps of different kinds do not see each other. -/
theorem SameOrder.build_eq {us vs : List Update} (h : SameOrder us vs) (g : Grant) :
    build us g = build vs g := by
  have htokenType : last Update.tokenType? us = last Update.tokenType? vs := by
    refine h.last_eq .tokenType fun u hu => ?_
    cases u with
    | tokenType t => exact absurd rfl hu
    | _ => rfl
  have hlifetime : last Update.lifetime? us = last Update.lifetime? vs := by
    refine h.last_eq .lifetime fun u hu => ?_
    cases u with
    | lifetime l => exact absurd rfl hu
    | _ => rfl
  have hrefresh : last Update.refresh? us = last Update.refresh? vs := by
    refine h.last_eq .refreshToken fun u hu => ?_
    cases u with
    | refreshToken t l => exact absurd rfl hu
    | _ => rfl
  have hscope : last Update.scope? us = last Update.scope? vs := by
    refine h.last_eq .scope fun u hu => ?_
    cases u with
    | scope s => exact absurd rfl hu
    | _ => rfl
  rw [Grant.build_eq, Grant.build_eq, htokenType, hlifetime, hrefresh, hscope]

/-! ### What holds after any step -/

/-- A grant has an expiry of a refresh token only with the token, no empty refresh token, a token type that
is not blank, and scopes that are words. -/
structure WellFormed (g : Grant) : Prop where
  refreshExpiresAt : g.refreshExpiresAt.isSome = true → g.refreshToken.isSome = true
  refreshToken : g.refreshToken ≠ some ""
  tokenType : Text.isBlankText g.tokenType = false
  scopes : ∀ s ∈ g.scopes, s ≠ "" ∧ ∀ c ∈ s.toList, Text.isBlank c = false

theorem Beginning.wellFormed_grant (b : Beginning) (now : Instant) : (b.grant now).WellFormed := by
  have hdefault : Text.isBlankText defaultTokenType = false := by decide
  cases b with
  | token accessToken sessionId => exact ⟨nofun, nofun, hdefault, nofun⟩
  | failure f => exact ⟨nofun, nofun, hdefault, nofun⟩

theorem word_of_mem_scopesOf {scope : Option String} {s : String} (h : s ∈ scopesOf scope) :
    s ≠ "" ∧ ∀ c ∈ s.toList, Text.isBlank c = false := by
  cases scope with
  | none => cases h
  | some text =>
    obtain ⟨w, hw, rfl⟩ := List.mem_map.mp h
    rw [String.toList_ofList]
    refine ⟨fun hempty => ?_, Text.not_isBlank_of_mem_words _ w hw⟩
    exact Text.ne_nil_of_mem_words _ w hw (by simpa using congrArg String.toList hempty)

/-- Every step keeps a grant well formed. -/
theorem WellFormed.apply {g : Grant} (h : g.WellFormed) (u : Update) : (u.apply g).WellFormed := by
  cases u with
  | tokenType t =>
    rw [Update.apply, withTokenType]
    split
    case isTrue => exact h
    case isFalse hblank => exact ⟨h.refreshExpiresAt, h.refreshToken, Bool.eq_false_iff.mpr hblank, h.scopes⟩
  | lifetime l => exact ⟨h.refreshExpiresAt, h.refreshToken, h.tokenType, h.scopes⟩
  | refreshToken t l =>
    refine ⟨fun hexpiry => ?_, fun hempty => ?_, h.tokenType, h.scopes⟩
    · -- without a token that is kept there is no expiry
      refine Decidable.byContradiction fun hnone => ?_
      have hunknown : ((Update.refreshToken t l).apply g).refreshExpiresAt = none := if_neg hnone
      rw [hunknown] at hexpiry
      cases hexpiry
    · obtain ⟨-, hfull⟩ := Option.filter_eq_some_iff.mp hempty
      cases hfull
  | scope s => exact ⟨h.refreshExpiresAt, h.refreshToken, h.tokenType, fun _ => word_of_mem_scopesOf⟩

theorem WellFormed.build {g : Grant} (h : g.WellFormed) (us : List Update) : (build us g).WellFormed := by
  induction us generalizing g with
  | nil => exact h
  | cons u us ih => exact ih (h.apply u)

theorem WellFormed.withScope_intercalate {g : Grant} (h : g.WellFormed) :
    g.withScope (some (" ".intercalate g.scopes)) = g := by
  have hwords : Text.words ([' '].intercalate (g.scopes.map String.toList))
      = g.scopes.map String.toList := by
    refine Text.words_intercalate fun w hw => ?_
    obtain ⟨s, hs, rfl⟩ := List.mem_map.mp hw
    obtain ⟨hne, hplain⟩ := h.scopes s hs
    exact ⟨fun hnil => hne (String.toList_inj.mp hnil), hplain⟩
  have hscopes : scopesOf (some (" ".intercalate g.scopes)) = g.scopes := by
    rw [scopesOf, String.toList_intercalate]
    show (Text.words ([' '].intercalate _)).map String.ofList = _
    rw [hwords, List.map_map]
    simp [Function.comp_def]
  rw [withScope, hscopes]

/-! ### Any steps -/

/-- Whatever steps are taken from a bare token or a failure, where the grant comes from stays as it was; the
token type is the last one given that is not blank, and every other part is decided by the last step of its
kind alone; so steps that come in another order, but for each kind in the same one, make the same grant.
The grant is well formed, and its scopes are those that the text of them names. -/
theorem build_spec (b : Beginning) (now : Instant) (us : List Update) :
    let start := b.grant now
    let g := build us start
    (g.accessToken = start.accessToken ∧ g.sessionId = start.sessionId ∧
      g.obtainedAt = start.obtainedAt ∧ g.failure = start.failure) ∧
    (g.tokenType = (last Update.tokenType? us).getD "Bearer" ∧
      g.expiresAt = (last Update.lifetime? us).bind (·.bind (expiryAfter now)) ∧
      g.refreshToken = (last Update.refresh? us).bind refreshTokenOf ∧
      g.refreshExpiresAt = (last Update.refresh? us).bind (refreshExpiryOf now) ∧
      g.scopes = ((last Update.scope? us).map scopesOf).getD []) ∧
    (∀ vs, SameOrder us vs → build vs start = g) ∧
    g.WellFormed ∧ g.withScope (some (" ".intercalate g.scopes)) = g := by
  intro start g
  have hstart : start.tokenType = "Bearer" ∧ start.expiresAt = none ∧ start.refreshToken = none ∧
      start.refreshExpiresAt = none ∧ start.scopes = [] ∧ start.obtainedAt = now := by
    cases b <;> exact ⟨rfl, rfl, rfl, rfl, rfl, rfl⟩
  obtain ⟨htokenType, hexpiresAt, hrefreshToken, hrefreshExpiresAt, hscopes, hobtainedAt⟩ := hstart
  have hwellFormed : g.WellFormed := (b.wellFormed_grant now).build us
  have hbuilt := build_eq us start
  rw [htokenType, hexpiresAt, hrefreshToken, hrefreshExpiresAt, hscopes, hobtainedAt] at hbuilt
  refine ⟨?_, ?_, fun vs hvs => (hvs.build_eq start).symm, hwellFormed,
    hwellFormed.withScope_intercalate⟩
  · rw [show g = _ from hbuilt]
    exact ⟨rfl, rfl, hobtainedAt.symm, rfl⟩
  · rw [show g = _ from hbuilt]
    refine ⟨?_, ?_, ?_, ?_, ?_⟩
    · cases last Update.tokenType? us <;> rfl
    · cases last Update.lifetime? us <;> rfl
    · cases last Update.refresh? us <;> rfl
    · cases last Update.refresh? us <;> rfl
    · cases last Update.scope? us <;> rfl

/-- A later lifetime and a later refresh token count, wherever the steps of other kinds stand, and what
belonged to the earlier ones is gone. -/
theorem build_of_repeated_steps :
    let us : List Update := [.lifetime (some 5), .refreshToken (some "r") (some 7), .tokenType "DPoP",
      .lifetime none, .scope (some "b\ta"), .refreshToken (some "q") none, .tokenType " "]
    let vs : List Update := [.refreshToken (some "r") (some 7), .refreshToken (some "q") none,
      .scope (some "b\ta"), .tokenType "DPoP", .tokenType " ", .lifetime (some 5), .lifetime none]
    let start := Beginning.grant Instant.epoch (.token "t" "s")
    SameOrder us vs ∧ build vs start = build us start ∧
      build us start = { new "t" "s" Instant.epoch with
        tokenType := "DPoP"
        refreshToken := some "q"
        scopes := ["b", "a"] } := by
  intro us vs start
  have horder : SameOrder us vs := by
    intro kind
    cases kind <;> rfl
  obtain ⟨-, -, hreordered, -⟩ := build_spec (.token "t" "s") Instant.epoch us
  exact ⟨horder, hreordered vs horder, by decide⟩

end PasswordGrant.Grant
