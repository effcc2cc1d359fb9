import PasswordGrant.Idna.Label
import PasswordGrant.Idna.Mapping
import PasswordGrant.Idna.Punycode
import PasswordGrant.Text.Split
import PasswordGrant.Unicode.Composition

/-!
# Names of hosts

The ASCII form of a host's name. Characters are replaced as the standard for names says, the text is
put in composed form, and each part between points that is not ASCII is written in Punycode behind a
mark. A part that has the mark already must be the Punycode of a part that could stand there.

* `label?`, `asciiLabel` : the parts of a name, as they are meant and as they are written;
* `toAscii?` : the ASCII form of a name.
-/

namespace PasswordGrant.Idna

/-- The mark of labels in Punycode. -/
def punycodeMark : List Char := ['x', 'n', '-', '-']

def isAscii (c : Char) : Bool := c.toNat < 0x80

/-- Whether a text is as it would be after replacing characters and composing. -/
def isSettled (cs : List Char) : Bool :=
  cs.all (fun c => fate c == .stays) && Unicode.normalize cs == cs

/-- What a label with the mark stands for: a settled text that is not ASCII. -/
def unmarked? (cs : List Char) : Option (List Char) :=
  (Punycode.decode? cs).filter fun label => !label.all isAscii && isSettled label

/-- The label that a part of a name stands for. -/
def label? (part : List Char) : Option (List Char) :=
  let label? :=
    if punycodeMark.isPrefixOf part then
      if part.all isAscii then unmarked? (part.drop punycodeMark.length) else none
    else some part
  label?.filter isWellFormed

/-- The ASCII form of a label. -/
def asciiLabel (label : List Char) : List Char :=
  if label.all isAscii then label else punycodeMark ++ Punycode.encode label

def generalToAscii? (cs : List Char) : Option (List Char) := do
  let replaced ← mapped? cs
  let labels ← (Text.splitOn (· == '.') (Unicode.normalize replaced)).mapM label?
  if labels.any (·.any isRightToLeft) && !labels.all keepsDirection then none
  else some (Text.join '.' (labels.map asciiLabel))

/-- The ASCII form of a name; `none` if it is no name. A name of ASCII characters without labels in
Punycode only changes its letter case. -/
def toAscii? (cs : List Char) : Option (List Char) :=
  let lower := cs.map Char.toLower
  if cs.all isAscii && !(Text.splitOn (· == '.') lower).any punycodeMark.isPrefixOf then
    if lower.any isForbidden then none else some lower
  else generalToAscii? cs

end PasswordGrant.Idna
