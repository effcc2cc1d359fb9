import PasswordGrant.Console
import PasswordGrant.Log.Filter
import PasswordGrant.Proofs.Operation
import PasswordGrant.Proofs.Utf8

/-!
# What a run of the program leaves behind

A run goes by its settings and by a log filter, and it needs a client that can be set up. If it has all
three it signs in, tells the outcome and ends well, whatever the network does and whatever is typed in; else
it ends with an error, and neither prints nor sends anything. What it prints ends with a line end, but it is
one line only if the session that was obtained has no line end in its name: the name is printed as the server
or the token gives it.

* `Console.EffectiveFilter` : the filter that a run goes by; `Console.Ready` : what a run needs;
* `Console.await_of_text` : a text that is typed in changes nothing;
* `Console.IsLine` : one line with its end;
* `Console.runToEnd_contract` : what a run leaves behind.
-/

namespace PasswordGrant.Console

variable {host : Host} {env : Environment.Variables} {now : Instant} {e : Exchange} {s : Settings}
  {f : Filter}

/-! ### The filter -/

/-- The filter of a run: that of the environment, if one is named there and can be read, or else that of
the settings, if it can be read. -/
inductive EffectiveFilter (host : Host) (env : Environment.Variables) (s : Settings) : Filter → Prop
  | environment {text : String} {f : Filter} (hget : Environment.get? env filterVariable = some text)
      (hread : host.readFilter text = .ok f) : EffectiveFilter host env s f
  | settings {f : Filter} (hnone : ∀ text, Environment.get? env filterVariable = some text →
      ∀ g, host.readFilter text ≠ .ok g) (hread : host.readFilter s.logFilter = .ok f) :
      EffectiveFilter host env s f

/-- A run goes by the effective filter. -/
theorem logFilter_eq_ok_iff : logFilter host env s = .ok f ↔ EffectiveFilter host env s f := by
  constructor
  · intro h
    rw [logFilter] at h
    split at h
    case h_1 g hnamed =>
      obtain ⟨text, hget, hread⟩ := Option.map_eq_some_iff.mp hnamed
      cases h
      exact .environment hget hread
    case h_2 hunnamed =>
      split at h
      case h_1 g hread =>
        cases h
        refine .settings (fun text hget g' htext => hunnamed g' ?_) hread
        rw [hget, Option.map_some, htext]
      case h_2 => cases h
  · rintro (⟨hget, hread⟩ | ⟨hnone, hread⟩)
    · rw [logFilter, hget, Option.map_some, hread]
    · rw [logFilter]
      split
      case h_1 g hnamed =>
        obtain ⟨text, hget, htext⟩ := Option.map_eq_some_iff.mp hnamed
        exact absurd htext (hnone text hget g)
      case h_2 => rw [hread]

/-- A run has what it needs: settings, a filter for its log, and a transport for its client. -/
structure Ready (host : Host) (env : Environment.Variables) (s : Settings) (f : Filter) : Prop where
  settings : Settings.load host.directory (some (Settings.fileOf env)) env = .ok s
  filter : EffectiveFilter host env s f
  transport : host.transportProblem? s.timeoutSeconds = none

theorem check_of_transport (h : host.transportProblem? s.timeoutSeconds = none) (now : Instant)
    (e : Exchange) : check host s now e = .ok (s.client.signIn s.credentials now e) := by
  rw [check, setupFailure?, h]
  rfl

theorem check_of_no_transport {problem : String}
    (h : host.transportProblem? s.timeoutSeconds = some problem) (now : Instant) (e : Exchange) :
    check host s now e
      = .error (.setup (.configuration ("failed to create HTTP client: " ++ problem))) := by
  rw [check, setupFailure?, h]
  rfl

/-! ### What is typed in -/

theorem lineEnd_ne_ofNat {n : Nat} (h : 0x80 ≤ n) (hn : n < 256) : lineEnd ≠ UInt8.ofNat n := by
  intro hbyte
  have hnumber := congrArg UInt8.toNat hbyte
  rw [Utf8.toNat_byte hn] at hnumber
  have hten : lineEnd.toNat = 10 := rfl
  omega

/-- Of all characters only the line end has the byte of a line end. -/
theorem lineEnd_not_mem_encodeChar {c : Char} (h : c ≠ '\n') : lineEnd ∉ Utf8.encodeChar c := by
  rw [Utf8.encodeChar, String.utf8EncodeChar]
  split
  case isTrue hone =>
    intro hmem
    have hnumber := congrArg UInt8.toNat (List.mem_singleton.mp hmem)
    rw [Utf8.toNat_byte (by omega)] at hnumber
    exact h (Char.toNat_inj.mp hnumber.symm)
  split
  · simp only [List.mem_cons, List.not_mem_nil, or_false, not_or]
    exact ⟨lineEnd_ne_ofNat (by omega) (by omega), lineEnd_ne_ofNat (by omega) (by omega)⟩
  split
  · simp only [List.mem_cons, List.not_mem_nil, or_false, not_or]
    exact ⟨lineEnd_ne_ofNat (by omega) (by omega), lineEnd_ne_ofNat (by omega) (by omega),
      lineEnd_ne_ofNat (by omega) (by omega)⟩
  · simp only [List.mem_cons, List.not_mem_nil, or_false, not_or]
    exact ⟨lineEnd_ne_ofNat (by omega) (by omega), lineEnd_ne_ofNat (by omega) (by omega),
      lineEnd_ne_ofNat (by omega) (by omega), lineEnd_ne_ofNat (by omega) (by omega)⟩

theorem firstLine_append {front : List UInt8} (h : lineEnd ∉ front) (rest : List UInt8) :
    firstLine (front ++ rest) = front ++ firstLine rest := by
  induction front with
  | nil => rfl
  | cons b front ih =>
    rw [List.mem_cons, not_or] at h
    rw [List.cons_append, firstLine, if_neg (Ne.symm h.1), ih h.2, List.cons_append]

theorem firstLine_encode (cs : List Char) : ∃ line, firstLine (Utf8.encode cs) = Utf8.encode line := by
  induction cs with
  | nil => exact ⟨[], rfl⟩
  | cons c cs ih =>
    by_cases hc : c = '\n'
    · exact ⟨['\n'], by rw [hc]; rfl⟩
    · obtain ⟨line, hline⟩ := ih
      refine ⟨c :: line, ?_⟩
      rw [Utf8.encode, List.flatMap_cons, firstLine_append (lineEnd_not_mem_encodeChar hc), ← Utf8.encode,
        hline]
      rfl

/-- A text that is typed in changes nothing. -/
theorem await_of_text (o : Outcome) (input : String) : o.await (Utf8.encode input.toList) = o := by
  obtain ⟨line, hline⟩ := firstLine_encode input.toList
  rw [Outcome.await, hline, Utf8.decode?_encode]
  simp

/-! ### What is printed -/

/-- A text is one line with its end. -/
def IsLine (text : String) : Prop := ∃ line : String, text = line ++ "\n" ∧ '\n' ∉ line.toList

theorem isLine_append (text : String) : IsLine (text ++ "\n") ↔ '\n' ∉ text.toList := by
  constructor
  · rintro ⟨line, htext, hline⟩
    rwa [(String.append_left_inj _).mp htext]
  · exact fun h => ⟨text, rfl, h⟩

/-! ### A run -/

/-- What is printed of an attempt: whether there is an access token, and then the session. -/
def outcomeText (g : Grant) : String :=
  if g.accessToken = "" then "Authentication failed"
  else "Successful authentication: " ++ g.sessionId

theorem outcomeLine_eq (g : Grant) : g.outcomeLine = outcomeText g := by
  rw [Grant.outcomeLine, Grant.isSuccess, outcomeText]
  by_cases h : g.accessToken = ""
  · rw [if_pos h, h]
    rfl
  · have hfilled : g.accessToken.isEmpty = false :=
      Bool.eq_false_iff.mpr fun hempty => h (String.isEmpty_iff.mp hempty)
    rw [if_neg h, hfilled]
    rfl

theorem lineEnd_mem_outcomeText (g : Grant) :
    '\n' ∈ (outcomeText g).toList ↔ g.accessToken ≠ "" ∧ '\n' ∈ g.sessionId.toList := by
  rw [outcomeText]
  by_cases h : g.accessToken = ""
  · rw [if_pos h]
    simp [h]
  · rw [if_neg h, String.toList_append, List.mem_append]
    simp [h]

/-- A run that has what it needs signs in. -/
theorem run_of_ready (h : Ready host env s f) : run host env now e
    = ⟨0, outcomeText (s.client.signIn s.credentials now e).1 ++ "\n",
        logLines f (records s (s.client.signIn s.credentials now e).2.events),
        (s.client.signIn s.credentials now e).2.requests, s.waitForEnter⟩ := by
  rw [run, h.settings]
  simp only [logFilter_eq_ok_iff.mpr h.filter, check_of_transport h.transport, outcomeLine_eq]

/-- Any other run ends with a problem. -/
theorem run_of_not_ready (h : ∀ s f, ¬Ready host env s f) :
    ∃ log problem, run host env now e = failure log problem := by
  rw [run]
  cases hload : Settings.load host.directory (some (Settings.fileOf env)) env with
  | error problem => exact ⟨_, _, rfl⟩
  | ok s =>
    cases hfilter : logFilter host env s with
    | error problem =>
      simp only [hfilter]
      exact ⟨_, _, rfl⟩
    | ok f =>
      cases htransport : host.transportProblem? s.timeoutSeconds with
      | some problem =>
        simp only [hfilter, check_of_no_transport htransport]
        exact ⟨_, _, rfl⟩
      | none => exact absurd ⟨hload, logFilter_eq_ok_iff.mp hfilter, htransport⟩ (h s f)

theorem length_requests_signIn (s : Settings) (now : Instant) (e : Exchange) :
    (s.client.signIn s.credentials now e).2.requests.length ≤ 1 := by
  show (s.client.authenticate s.credentials now e).requests.length ≤ 1
  rw [Operation.authenticate_requests]
  rcases Operation.sent_eq (s.client.authenticateUrl s.credentials) (s.client.tokenRequest s.credentials)
    "token response" e with hsent | ⟨url, -, hsent⟩
  · rw [hsent]
    exact Nat.zero_le 1
  · rw [hsent]
    exact Nat.le_refl 1

/-- Whatever files, filters and transports there are, whatever text is typed in and whatever the network
does: a run that has its settings, a log filter and a transport ends well, sends at most one request and
prints the outcome with a line end behind it. That is one line exactly if no token was obtained or the session
holds no line end. Any other run ends with an error, prints nothing and sends nothing. -/
theorem runToEnd_contract (host : Host) (env : Environment.Variables) (now : Instant) (e : Exchange)
    (input : String) :
    (∀ s f, Ready host env s f →
      (runToEnd host env now e (Utf8.encode input.toList)).exitCode = 0 ∧
      (runToEnd host env now e (Utf8.encode input.toList)).requests.length ≤ 1 ∧
      (runToEnd host env now e (Utf8.encode input.toList)).output
        = outcomeText (s.client.signIn s.credentials now e).1 ++ "\n" ∧
      (IsLine (runToEnd host env now e (Utf8.encode input.toList)).output ↔
        (s.client.signIn s.credentials now e).1.accessToken = "" ∨
          '\n' ∉ (s.client.signIn s.credentials now e).1.sessionId.toList)) ∧
    ((∀ s f, ¬Ready host env s f) →
      (runToEnd host env now e (Utf8.encode input.toList)).exitCode = 1 ∧
      (runToEnd host env now e (Utf8.encode input.toList)).output = "" ∧
      (runToEnd host env now e (Utf8.encode input.toList)).requests = []) := by
  rw [runToEnd, await_of_text]
  refine ⟨fun s f hready => ?_, fun hnone => ?_⟩
  · rw [run_of_ready hready]
    refine ⟨rfl, length_requests_signIn s now e, rfl, ?_⟩
    rw [isLine_append, lineEnd_mem_outcomeText, Classical.not_and_iff_not_or_not,
      Classical.not_not]
  · obtain ⟨log, problem, hrun⟩ := run_of_not_ready hnone
    rw [hrun]
    exact ⟨rfl, rfl, rfl⟩

/-- The built-in settings without a server that could be reached, and some text typed in. -/
theorem runToEnd_unreachable :
    let host : Host := ⟨⟨fun _ => none, [.toml, .json]⟩, LogFilter.read fun _ => none, fun _ => none⟩
    let ended := runToEnd host [] Instant.epoch .unreachable (Utf8.encode "é\nno".toList)
    ended.exitCode = 0 ∧ ended.output = "Authentication failed\n" ∧ IsLine ended.output := by
  intro host ended
  have hload : Settings.load host.directory (some (Settings.fileOf [])) []
      = .ok ⟨⟨"http://127.0.0.1:8182", "myapp", .confidential, "test-service-app-client",
          "fb6Z4RsOadVycQoeQiN57xpu8w8wplYz", "auth"⟩, ⟨"admin", "1s2d3f4g90xs", "profile"⟩, 30, "info",
          true⟩ := eq_ok_of_toOption (by decide +kernel)
  have hread : host.readFilter "info" = .ok (LogFilter.shows ⟨[⟨none, [], false, some .info⟩]⟩) := by
    have hparse : LogFilter.parse (fun _ => none) "info" = .ok ⟨[⟨none, [], false, some .info⟩]⟩ :=
      eq_ok_of_toOption (by decide +kernel)
    show LogFilter.read (fun _ => none) "info" = _
    rw [LogFilter.read, hparse]
  have hready : Ready host [] _ _ := ⟨hload, .settings (fun text h => by cases h) hread, rfl⟩
  obtain ⟨hcontract, -⟩ := runToEnd_contract host [] Instant.epoch .unreachable "é\nno"
  obtain ⟨hcode, -, houtput, hline⟩ := hcontract _ _ hready
  have htext : ended.output = "Authentication failed\n" := by
    rw [houtput]
    decide +kernel
  exact ⟨hcode, htext, hline.mpr (.inl (by decide +kernel))⟩

/-- A server that names its session with a line end makes the program print two lines. -/
theorem runToEnd_prints_two_lines :
    let host : Host := ⟨⟨fun _ => none, [.toml, .json]⟩, LogFilter.read fun _ => none, fun _ => none⟩
    let body := "\x7b\"access_token\":\"t\",\"session_state\":\"a\\nb\"\x7d"
    let ended := runToEnd host [] Instant.epoch (.answered 200 (Utf8.encode body.toList)) []
    ended.exitCode = 0 ∧ ended.output = "Successful authentication: a\nb\n" ∧ ¬IsLine ended.output := by
  intro host body ended
  have htext : ended.output = "Successful authentication: a\nb" ++ "\n" := by decide +kernel
  refine ⟨by decide +kernel, htext, ?_⟩
  rw [htext, isLine_append]
  decide

end PasswordGrant.Console
