/-!
# Log records

A record has a level, a message and named values. Levels are ordered by how much a record matters:
a threshold lets a level through if it lets through all that matter more.

* `Level`, `Level.rank` : the levels and their order;
* `LogRecord` : a record; `LogRecord.line` : how it is shown in one line.
-/

namespace PasswordGrant

/-- How much a log record matters. -/
inductive Level where
  | error
  | warn
  | info
  | debug
  | trace
  deriving DecidableEq, Repr

namespace Level

def name : Level → String
  | .error => "ERROR"
  | .warn => "WARN"
  | .info => "INFO"
  | .debug => "DEBUG"
  | .trace => "TRACE"

/-- The place of a level, from the one that matters most. -/
def rank : Level → Nat
  | .error => 1
  | .warn => 2
  | .info => 3
  | .debug => 4
  | .trace => 5

theorem rank_injective {a b : Level} (h : a.rank = b.rank) : a = b := by
  cases a <;> cases b <;> simp_all [rank]

end Level

/-- A log record: a level, a message and named values. -/
structure LogRecord where
  level : Level
  message : String
  fields : List (String × String)
  deriving DecidableEq, Repr

namespace LogRecord

def optionText : Option Nat → String
  | none => "None"
  | some n => "Some(" ++ n.repr ++ ")"

/-- The line of a record that comes from a part of the program. -/
def line (target : String) (r : LogRecord) : String :=
  r.level.name ++ " " ++ target ++ ": " ++ r.message
    ++ String.join (r.fields.map fun f => " " ++ f.1 ++ "=" ++ f.2)

end LogRecord

end PasswordGrant
