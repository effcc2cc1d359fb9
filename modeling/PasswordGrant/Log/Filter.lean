import PasswordGrant.Log.Record
import PasswordGrant.Settings.Numeral
import PasswordGrant.Text.Blank
import PasswordGrant.Text.Split
import PasswordGrant.Unicode.Alphanumeric

/-!
# Log filters

A filter is a list of rules between commas. A rule names a part of the program and the least level
that is shown of it; a rule without a name is about all parts, and a rule without a level shows
everything. Of the rules that are about a record, the most specific one decides. What is wrong with the
pattern of a value, if anything is, is a parameter.

* `Threshold`, `LogRule`, `LogFilter` : the filters;
* `LogFilter.parse` : reads a filter; `LogFilter.Fault` : what can be wrong with one;
* `LogFilter.shows` : whether a record is shown;
* `LogFilter.read` : what the filter of a text shows.
-/

namespace PasswordGrant

/-- The least level that is shown, if any is. -/
abbrev Threshold := Option Level

namespace Threshold

/-- The threshold of a place in the order of levels. -/
def ofRank? : Nat → Option Threshold
  | 0 => some none
  | 1 => some (some .error)
  | 2 => some (some .warn)
  | 3 => some (some .info)
  | 4 => some (some .debug)
  | 5 => some (some .trace)
  | _ => none

/-- A threshold by its number or by its name in any letter case. -/
def parse? (cs : List Char) : Option Threshold :=
  match (Numeral.natural? (String.ofList cs)).bind ofRank? with
  | some t => some t
  | none =>
    match String.ofList (cs.map Char.toLower) with
    | "off" => some none
    | "error" => some (some .error)
    | "warn" => some (some .warn)
    | "info" => some (some .info)
    | "debug" => some (some .debug)
    | "trace" => some (some .trace)
    | _ => none

/-- Whether a level is shown. -/
def admits (t : Threshold) (level : Level) : Bool :=
  match t with
  | none => false
  | some least => level.rank ≤ least.rank

end Threshold

/-- A rule. It is about the records of the parts of the program whose names begin with its target,
and, if it names fields, only those with these fields. A rule about a stretch of work is about none,
because the program marks none. -/
structure LogRule where
  target : Option (List Char)
  fields : List (List Char)
  aboutWork : Bool
  threshold : Threshold
  deriving DecidableEq, Repr

/-- A filter: its rules in order. -/
structure LogFilter where
  rules : List LogRule
  deriving DecidableEq, Repr

namespace LogFilter

/-- What can be wrong with a filter. -/
inductive Fault where
  | rule
  | level
  | field (problem : String)
  deriving DecidableEq, Repr

def Fault.message : Fault → String
  | .rule => "invalid filter directive"
  | .level => "error parsing level filter: expected one of \"off\", \"error\", \"warn\", \"info\", "
      ++ "\"debug\", \"trace\", or a number 0-5"
  | .field problem => "invalid field filter: " ++ problem

/-! ### Reading -/

/-- Whether a rule's name may begin with a character. -/
def startsName (c : Char) : Bool := Unicode.isAlphanumeric c || c = '-' || c = ':' || c = '_'

/-- The threshold behind an equals sign; nothing there stands for the lowest. -/
def thresholdOf (cs : List Char) : Except Fault Threshold :=
  if cs.isEmpty then .ok (some .trace)
  else match Threshold.parse? cs with
    | some t => .ok t
    | none => .error .level

/-- A rule that is one word: a threshold, or else the name of a part that is shown altogether. -/
def wordRule (word : List Char) : LogRule :=
  match Threshold.parse? word with
  | some t => ⟨none, [], false, t⟩
  | none => ⟨some word, [], false, some .trace⟩

/-- What follows the closing bracket: nothing, or a threshold. -/
def afterBracket (rule : LogRule) : List Char → Except Fault LogRule
  | [] => .ok rule
  | '=' :: level => (thresholdOf level).map fun t => { rule with threshold := t }
  | _ => .error .rule

section

variable (patternProblem? : List Char → Option String)

/-- What is wrong with the value of a field: one that is no truth value and no number is a pattern. -/
def valueProblem? (value : List Char) : Option String :=
  let text := String.ofList value
  if text = "true" ∨ text = "false" ∨ (Numeral.natural? text).isSome ∨ (Numeral.integer? text).isSome
      ∨ (Numeral.float? text).isSome then none
  else patternProblem? value

/-- The name of a field, if there is nothing wrong with its value. Another equals sign ends the value. -/
def fieldName (field : List Char) : Except Fault (List Char) :=
  match field.dropWhile (· != '=') with
  | [] => .ok field
  | _ :: rest =>
    match valueProblem? patternProblem? (rest.takeWhile (· != '=')) with
    | some problem => .error (.field problem)
    | none => .ok (field.takeWhile (· != '='))

/-- The rest of a rule behind an opening bracket: the name of a stretch of work, and a field in
braces with an optional value. A value can only be seen in a stretch of work. -/
def bracketRule (target : Option (List Char)) (cs : List Char) : Except Fault LogRule :=
  let work := cs.takeWhile fun c => c != ']' && c != '\x7b'
  match cs.drop work.length with
  | ']' :: rest => afterBracket ⟨target, [], true, some .trace⟩ rest
  | '\x7b' :: rest =>
    let field := rest.takeWhile (· != '\x7d')
    match rest.drop field.length with
    | '\x7d' :: more =>
      if field.isEmpty then .error .rule
      else do
        let name ← fieldName patternProblem? field
        match more with
        | ']' :: more =>
          afterBracket ⟨target, [name], !work.isEmpty || field.contains '=', some .trace⟩ more
        | _ => .error .rule
    | _ => .error .rule
  | _ => .error .rule

/-- Reads a rule. Blanks at its two ends are no reason to refuse it, but they belong to the words
beside them, so that a name or a threshold next to one is another word. -/
def ruleOf (part : List Char) : Except Fault LogRule :=
  let shown := Text.trimChars part
  match shown with
  | [] => .error .rule
  | c :: _ =>
    if c = '[' then bracketRule patternProblem? none (shown.drop 1)
    else if !startsName c then .error .rule
    else
      let name := shown.takeWhile fun c => c != '=' && c != '['
      let behind := part.drop (name.length + 1)
      match shown.drop name.length with
      | [] => .ok (wordRule part)
      | '=' :: _ =>
        (thresholdOf behind).map fun t => ⟨some (part.take name.length), [], false, t⟩
      | _ => bracketRule patternProblem? (some (part.take name.length)) (shown.drop (name.length + 1))

def errorsOnly : LogFilter := ⟨[⟨none, [], false, some .error⟩]⟩

/-- Reads a filter; one without rules shows errors only. -/
def parse (s : String) : Except Fault LogFilter :=
  let parts := (Text.splitOn (· == ',') s.toList).filter (!·.isEmpty)
  (parts.mapM (ruleOf patternProblem?)).map fun rules => if rules.isEmpty then errorsOnly else ⟨rules⟩

end

/-! ### Deciding -/

/-- Whether a rule is about a record of a part of the program. -/
def concerns (target : String) (r : LogRecord) (rule : LogRule) : Bool :=
  !rule.aboutWork
    && (match rule.target with
      | none => true
      | some name => name.isPrefixOf target.toList)
    && rule.fields.all fun f =>
      f = "message".toList || r.fields.any fun field => field.1.toList == f

/-- How specific a rule is: first by the length of its target, then by its fields. -/
def specificity (rule : LogRule) : Nat × Nat :=
  (match rule.target with
    | none => 0
    | some name => name.length + 1, rule.fields.length)

/-- Whether a rule is at least as specific as another. -/
def outweighs (rule other : LogRule) : Bool :=
  let a := specificity rule
  let b := specificity other
  b.1 < a.1 || (b.1 = a.1 && b.2 ≤ a.2)

/-- The rule that decides: the most specific one, and of equals the last. -/
def deciding : List LogRule → Option LogRule
  | [] => none
  | rule :: rules =>
    match deciding rules with
    | none => some rule
    | some other => if outweighs other rule then some other else some rule

/-- Whether a record of a part of the program is shown. -/
def shows (f : LogFilter) (target : String) (r : LogRecord) : Bool :=
  match deciding (f.rules.filter (concerns target r)) with
  | none => false
  | some rule => rule.threshold.admits r.level

/-- What the filter of a text shows of the records of a part of the program, or the wording of what is wrong
with it. -/
def read (patternProblem? : List Char → Option String) (text : String) :
    Except String (String → LogRecord → Bool) :=
  match parse patternProblem? text with
  | .ok f => .ok f.shows
  | .error fault => .error fault.message

end LogFilter

end PasswordGrant
