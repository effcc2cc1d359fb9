import PasswordGrant.Unicode.CombiningClass
import PasswordGrant.Unicode.Direction
import PasswordGrant.Unicode.Joining

/-!
# Labels of names

What the parts of a host's name must keep to beyond the characters they hold: a part does not begin
with a mark, the two invisible joiners only stand where they change how something is written, and in a
name with text from right to left the directions are not mixed.

* `joinersInPlace` : the rule of joiners;
* `isRightToLeft`, `keepsDirection` : the rule of directions;
* `isWellFormed` : what holds of a part on its own.
-/

namespace PasswordGrant.Idna

open Unicode

/-! ### Joiners -/

/-- The invisible character that keeps two letters from joining. -/
def nonJoiner : Nat := 0x200C

/-- The invisible character that makes two letters join. -/
def joiner : Nat := 0x200D

/-- Whether the first character that is not passed over joins at one of the given sides. -/
def reaches (sides : List Joining) (cs : List Char) : Bool :=
  match cs.dropWhile fun c => joining c == .transparent with
  | [] => false
  | c :: _ => sides.contains (joining c)

/-- Whether a joiner may stand between what is before it, from the last character to the first, and
what is behind it. -/
def mayStand (code : Nat) (before behind : List Char) : Bool :=
  match before with
  | [] => false
  | c :: _ =>
    combiningClass c == viramaClass
      || code == nonJoiner && reaches [.left, .dual] before && reaches [.right, .dual] behind

/-- Whether all joiners behind a text, given from its last character to its first, may stand where
they are. -/
def joinersInPlaceAfter (before : List Char) : List Char → Bool
  | [] => true
  | c :: rest =>
    (!(c.toNat == nonJoiner || c.toNat == joiner) || mayStand c.toNat before rest)
      && joinersInPlaceAfter (c :: before) rest

/-- Whether all joiners of a label may stand where they are. -/
def joinersInPlace (label : List Char) : Bool := joinersInPlaceAfter [] label

/-! ### Directions -/

/-- Whether a character makes the name a name with text from right to left. -/
def isRightToLeft (c : Char) : Bool :=
  [Direction.rightToLeft, .arabicLetter, .arabicNumber].contains (direction c)

/-- The directions within a label from left to right. -/
def withinLeftToRight : List Direction :=
  [.leftToRight, .europeanNumber, .numberSeparator, .commonSeparator, .numberTerminator, .neutral,
    .boundary, .mark]

/-- The directions within a label from right to left. -/
def withinRightToLeft : List Direction :=
  [.rightToLeft, .arabicLetter, .arabicNumber, .europeanNumber, .numberSeparator, .commonSeparator,
    .numberTerminator, .neutral, .boundary, .mark]

/-- Whether the last character that is no mark has one of the given directions. -/
def endsWith (ends : List Direction) (ds : List Direction) : Bool :=
  match ds.reverse.dropWhile (· == .mark) with
  | [] => false
  | d :: _ => ends.contains d

/-- The rule of directions for a label of a name with text from right to left. -/
def keepsDirection (label : List Char) : Bool :=
  let ds := label.map direction
  match ds with
  | [] => true
  | .leftToRight :: _ =>
    ds.all withinLeftToRight.contains && endsWith [.leftToRight, .europeanNumber] ds
  | d :: _ =>
    (d == .rightToLeft || d == .arabicLetter)
      && ds.all withinRightToLeft.contains
      && endsWith [.rightToLeft, .arabicLetter, .europeanNumber, .arabicNumber] ds
      && !(ds.contains .europeanNumber && ds.contains .arabicNumber)

/-! ### A label on its own -/

def isForbidden (c : Char) : Bool :=
  c.toNat ≤ 0x20 || c.toNat == 0x7F || "#%/:<>?@[\\]^|".toList.contains c

/-- What holds of a label on its own. -/
def isWellFormed (label : List Char) : Bool :=
  !label.any isForbidden && joinersInPlace label
    && match label with
      | [] => true
      | c :: _ => !isMark c

end PasswordGrant.Idna
