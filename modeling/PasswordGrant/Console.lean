import PasswordGrant.Log.Record
import PasswordGrant.Settings.Layers
import PasswordGrant.SignIn

/-!
# The console program

The program signs in once with the settings it finds and tells the outcome in one line; its log goes
to the other stream. What it would send and what arrives is a parameter, so that a run is a function, and so
is what the program is given by others: files and their formats, log filters, and a transport.

* `Console.Host` : what the program is given;
* `Console.Problem` : what ends a run before it tells an outcome;
* `Console.check` : signing in once with given settings;
* `Console.logFilter` : the filter that a run goes by;
* `Console.run` : a run up to where it may wait for a person;
* `Console.runToEnd` : a whole run, with what is typed in.
-/

namespace PasswordGrant.Console

/-- The name and version that the program calls itself by. -/
def title : String := "ferrum-checker v0.1.0"

/-- The part of the program that says what it is about to do. -/
def ownTarget : String := "ferrum_checker"

/-- The part of the program that logs events. -/
def eventTarget : String := "ferrum_auth_infrastructure::adapters::tracing_observer"

/-- The variable that overrides the log filter of the settings. -/
def filterVariable : String := "RUST_LOG"

/-- Whether a record of a part of the program is shown. -/
abbrev Filter := String → LogRecord → Bool

/-- What the program is given by others. -/
structure Host where
  /-- The files of settings and their formats. -/
  directory : Directory
  /-- The filter that a text stands for, or the wording of what is wrong with it. -/
  readFilter : String → Except String Filter
  /-- Why there is no transport with a time limit in seconds, if there is none. -/
  transportProblem? : Nat → Option String

/-- What ends a run before it tells an outcome. -/
inductive Problem where
  /-- The settings cannot be loaded. -/
  | settings (e : SettingsError)
  /-- There is no filter for the log. -/
  | logging (message : String)
  /-- The client cannot be set up. -/
  | setup (f : Failure)
  deriving DecidableEq, Repr

def Problem.debug : Problem → String
  | .settings e => e.debug
  | .logging message => "Logging(" ++ Quoted.quote message ++ ")"
  | .setup f => "Setup(" ++ f.debug ++ ")"

/-! ### Signing in once -/

/-- Why the client of given settings cannot be set up. -/
def setupFailure? (host : Host) (s : Settings) : Option Failure :=
  (host.transportProblem? s.timeoutSeconds).map fun problem =>
    .configuration ("failed to create HTTP client: " ++ problem)

/-- Signs in once with given settings, if the client can be set up. -/
def check (host : Host) (s : Settings) (now : Instant) (e : Exchange) :
    Except Problem (Grant × Report Grant) :=
  match setupFailure? host s with
  | some f => .error (.setup f)
  | none => .ok (s.client.signIn s.credentials now e)

/-! ### The log -/

/-- The filter that a run goes by: that of the environment if it can be read, or else that of the
settings. -/
def logFilter (host : Host) (env : Environment.Variables) (s : Settings) : Except Problem Filter :=
  match (Environment.get? env filterVariable).map host.readFilter with
  | some (.ok f) => .ok f
  | _ =>
    match host.readFilter s.logFilter with
    | .ok f => .ok f
    | .error message => .error (.logging ("invalid log filter: " ++ message))

/-- One character of a message: those that could control a terminal are written by their code. -/
def messageChar (c : Char) : List Char :=
  let n := c.toNat
  if n = 0x1B || n = 0x07 || n = 0x08 || n = 0x0C || n = 0x7F then
    ['\\', 'x', Hex.digitLower (n / 16), Hex.digitLower (n % 16)]
  else if 0x80 ≤ n && n ≤ 0x9F then "\\u\x7b".toList ++ Hex.digitsLower n ++ ['\x7d']
  else [c]

/-- The record that says what the program is about to do. -/
def startRecord (s : Settings) : LogRecord :=
  ⟨.info, String.ofList
    (("Starting " ++ title ++ " against realm " ++ s.server.realm).toList.flatMap messageChar), []⟩

/-- All records of a run with the parts they come from, in order. -/
def records (s : Settings) (events : List Event) : List (String × LogRecord) :=
  (ownTarget, startRecord s) :: events.map fun e => (eventTarget, e.log)

/-- The lines of the log that a filter shows. -/
def logLines (f : Filter) (rs : List (String × LogRecord)) : List String :=
  (rs.filter fun r => f r.1 r.2).map fun r => r.2.line r.1

/-! ### A run -/

/-- What a run leaves behind: its exit code, what it printed, the lines of its log, what it sent, and
whether it waits for a person at the end. -/
structure Outcome where
  exitCode : Nat
  output : String
  log : List String
  requests : List Request
  waits : Bool

/-- A run that ends with a problem, behind some lines of its log. -/
def failure (log : List String) (problem : Problem) : Outcome :=
  ⟨1, "", log ++ ["Error: " ++ problem.debug], [], false⟩

/-- A run of the program. -/
def run (host : Host) (env : Environment.Variables) (now : Instant) (e : Exchange) : Outcome :=
  match Settings.load host.directory (some (Settings.fileOf env)) env with
  | .error problem => failure [] (.settings problem)
  | .ok s =>
    match logFilter host env s with
    | .error problem => failure [] problem
    | .ok f =>
      match check host s now e with
      | .error problem => failure (logLines f (records s [])) problem
      | .ok (grant, report) =>
        ⟨0, grant.outcomeLine ++ "\n", logLines f (records s report.events), report.requests,
          s.waitForEnter⟩

/-! ### Waiting for a person -/

def lineEnd : UInt8 := 10

/-- The first line of what is typed in, with its end if it has one. -/
def firstLine : List UInt8 → List UInt8
  | [] => []
  | b :: rest => if b = lineEnd then [b] else b :: firstLine rest

/-- What is wrong with a line that is no text. -/
def lineProblem : String :=
  "Custom \x7b kind: InvalidData, error: " ++ Quoted.quote "stream did not contain valid UTF-8"
    ++ " \x7d"

/-- A run that waits goes on with the first line that is typed in, or with the end of what is. The line
is not looked at, but it must be a text. -/
def Outcome.await (o : Outcome) (input : List UInt8) : Outcome :=
  if o.waits && (Utf8.decode? (firstLine input)).isNone then
    { o with exitCode := 1, log := o.log ++ ["Error: " ++ lineProblem] }
  else o

/-- A whole run of the program, with what is typed in. -/
def runToEnd (host : Host) (env : Environment.Variables) (now : Instant) (e : Exchange)
    (input : List UInt8) : Outcome :=
  (run host env now e).await input

end PasswordGrant.Console
