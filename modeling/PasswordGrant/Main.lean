import PasswordGrant.Console
import PasswordGrant.Log.Filter

/-!
# The command line

Reads the environment and the file of settings, runs the program, prints what it says, and waits for
a line where the settings ask for it. The program has no transport of its own: an attempt that would
send a request meets a connection that fails, as if the server could not be reached. Of the formats of files
it brings the two that are at hand, and it takes every pattern in a log filter for one that can be read.
-/

namespace PasswordGrant

def readEnvironment : IO Environment.Variables := do
  let bytes ← IO.FS.readBinFile "/proc/self/environ"
  pure (Environment.ofListing (Utf8.decodeLossy bytes.toList))

/-- The formats of files that are at hand. -/
def formatsAtHand : List FileFormat := [.toml, .json]

/-- The files that a name may stand for, of those that can be read. -/
def readDirectory (path : String) : IO Directory := do
  let mut files : List (String × String) := []
  for name in FilePath.possible formatsAtHand path do
    match ← (IO.FS.readFile name).toBaseIO with
    | .ok content => files := (name, content) :: files
    | .error _ => pure ()
  let found := files
  pure ⟨fun name => found.lookup name, formatsAtHand⟩

/-- The first line of what is typed in, as bytes. -/
def readLine (input : IO.FS.Stream) : IO (List UInt8) := do
  let mut line := []
  repeat
    let next := (← input.read 1).toList
    line := line ++ next
    if next.isEmpty || next.contains Console.lineEnd then break
  pure line

/-- Runs the program; the answer is its exit code. No output depends on the time, so the clock stands
still. -/
def runProgram : IO UInt32 := do
  let env ← readEnvironment
  let directory ← readDirectory (Settings.fileOf env).path
  let host : Console.Host := ⟨directory, LogFilter.read fun _ => none, fun _ => none⟩
  let outcome := Console.run host env Instant.epoch .unreachable
  for line in outcome.log do
    IO.eprintln line
  let output ← IO.getStdout
  output.putStr outcome.output
  output.flush
  let line ← if outcome.waits then readLine (← IO.getStdin) else pure []
  let ended := outcome.await line
  for line in ended.log.drop outcome.log.length do
    IO.eprintln line
  pure ended.exitCode.toUInt32

end PasswordGrant

def main : IO UInt32 := PasswordGrant.runProgram
