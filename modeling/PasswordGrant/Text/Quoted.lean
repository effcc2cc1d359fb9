import PasswordGrant.Text.Hex

/-!
# Quoted text in diagnostics

Diagnostics show a text between double quotes. A quote, a backslash and the usual controls are
written with a backslash and one letter, every other control by its code point; all else stands as
it is.

* `quoteChar` : how one character is written between the quotes;
* `quote` : the quoted text.
-/

namespace PasswordGrant.Quoted

/-- C0 controls, the delete character and C1 controls. -/
def isControl (c : Char) : Bool := c.toNat < 0x20 || (0x7F ≤ c.toNat && c.toNat ≤ 0x9F)

/-- One character between the quotes. -/
def quoteChar (c : Char) : List Char :=
  if c = '"' then ['\\', '"']
  else if c = '\\' then ['\\', '\\']
  else if c = '\n' then ['\\', 'n']
  else if c = '\t' then ['\\', 't']
  else if c = '\r' then ['\\', 'r']
  else if c.toNat = 0 then ['\\', '0']
  else if isControl c then "\\u\x7b".toList ++ Hex.digitsLower c.toNat ++ ['\x7d']
  else [c]

/-- The text between double quotes. -/
def quote (s : String) : String :=
  String.ofList ('"' :: s.toList.flatMap quoteChar ++ ['"'])

def quoteList (l : List String) : String := "[" ++ ", ".intercalate (l.map quote) ++ "]"

/-- An optional text: `None`, or the quoted text marked as present. -/
def quoteOption : Option String → String
  | none => "None"
  | some s => "Some(" ++ quote s ++ ")"

/-- A record in one line: its name, and its fields with values already written. -/
def record (name : String) (fields : List (String × String)) : String :=
  name ++ " \x7b " ++ ", ".intercalate (fields.map fun f => f.1 ++ ": " ++ f.2) ++ " \x7d"

end PasswordGrant.Quoted
