import PasswordGrant.Settings.Numeral
import PasswordGrant.Settings.Raw
import PasswordGrant.Text.Split
import PasswordGrant.Unicode.LowerCase

/-!
# Settings from environment variables

A variable whose name starts with the program's mark, in any letter case, is a setting: the rest of
its name in lower case, with a point for each double underscore, is the place, and its text is taken
for a truth value, a whole number or another number where it can be one.

* `Environment.place?` : the place that a variable sets;
* `Environment.value` : what its text is taken for;
* `Environment.entries` : the settings of an environment;
* `Environment.ofListing` : the environment that a listing describes.
-/

namespace PasswordGrant.Environment

/-- An environment: names and texts. -/
abbrev Variables := List (String × String)

/-- The beginning of the names of the program's variables. -/
def mark : List Char := "ferrum_checker_".toList

def sourceName : String := "the environment"

/-- A text without a beginning, if it has that beginning. -/
def dropStart? : List Char → List Char → Option (List Char)
  | [], rest => some rest
  | _ :: _, [] => none
  | p :: ps, c :: rest => if p = c then dropStart? ps rest else none

/-- Double underscores become points, from left to right. -/
def pointed : List Char → List Char
  | '_' :: '_' :: rest => '.' :: pointed rest
  | c :: rest => c :: pointed rest
  | [] => []

/-- The place that a variable sets; `none` for the variables of others. -/
def place? (name : String) : Option String :=
  (dropStart? mark (Unicode.lower name.toList)).map fun rest => String.ofList (pointed rest)

/-- What the text of a variable is taken for. -/
def value (text : String) : RawScalar :=
  let lower := String.ofList (Unicode.lower text.toList)
  if lower = "true" then .flag true
  else if lower = "false" then .flag false
  else match Numeral.integer? text with
    | some i => .integer i
    | none =>
      match Numeral.float? text with
      | some x => .float x
      | none => .text text

/-- The settings of an environment. -/
def entries (env : Variables) : List (String × Raw) :=
  env.filterMap fun v =>
    (place? v.1).map fun place => (place, .scalar (some sourceName) (value v.2))

/-- The variables of a text in which each is written as its name, an equals sign and its text, with a
zero character behind it. -/
def ofListing (listing : List Char) : Variables :=
  (Text.splitOn (·.toNat == 0) listing).filterMap fun entry =>
    match entry.dropWhile (· != '=') with
    | _ :: text => some (String.ofList (entry.takeWhile (· != '=')), String.ofList text)
    | [] => none

def get? (env : Variables) (name : String) : Option String := env.lookup name

end PasswordGrant.Environment
