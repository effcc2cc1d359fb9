import PasswordGrant.Url.Ipv4

/-!
# Sixteen-byte addresses

Eight groups of up to four hexadecimal digits. One run of groups may be left out, and the last two
groups may be written as a four-byte address.

* `Ipv6.parse?` : the groups of a text;
* `Ipv6.text` : the usual form, the first of the longest runs of two or more zero groups left out.
-/

namespace PasswordGrant.Ipv6

/-- The value of a group of one to four hexadecimal digits. -/
def group? (cs : List Char) : Option Nat :=
  if cs.isEmpty ∨ 4 < cs.length then none else Ipv4.digitsValue? 16 cs

/-- A decimal byte without a needless zero in front. -/
def byte? (cs : List Char) : Option Nat :=
  match cs with
  | [] => none
  | ['0'] => some 0
  | '0' :: _ => none
  | _ =>
    if cs.all Ipv4.isDigit then
      (Ipv4.digitsValue? 10 cs).filter fun n => decide (n ≤ 255)
    else none

/-- The two groups of a four-byte address at the end. -/
def tail? (cs : List Char) : Option (List Nat) :=
  match (Text.splitOn (· == '.') cs).mapM byte? with
  | some [a, b, c, d] => some [a * 256 + b, c * 256 + d]
  | _ => none

/-- The groups of parts; only the last part may be a four-byte address. -/
def groups? : List (List Char) → Option (List Nat)
  | [] => some []
  | [part] => if part.contains '.' then tail? part else (group? part).map fun g => [g]
  | part :: rest => do
    let g ← group? part
    let gs ← groups? rest
    some (g :: gs)

/-- The parts of a text between colons; none for the empty text. -/
def parts (cs : List Char) : List (List Char) :=
  if cs.isEmpty then [] else Text.splitOn (· == ':') cs

/-- A text split at its first double colon. -/
def splitGap : List Char → Option (List Char × List Char)
  | [] => none
  | [_] => none
  | a :: b :: rest =>
    if a = ':' ∧ b = ':' then some ([], rest)
    else (splitGap (b :: rest)).map fun p => (a :: p.1, p.2)

/-- The eight groups of a text. -/
def parse? (cs : List Char) : Option (List Nat) :=
  match splitGap cs with
  | none => (groups? (parts cs)).filter fun gs => gs.length == 8
  | some (before, after) => do
    let front ← (parts before).mapM group?
    let back ← groups? (parts after)
    if front.length + back.length < 8 then
      some (front ++ List.replicate (8 - front.length - back.length) 0 ++ back)
    else none

def zeroRun (gs : List Nat) : Nat := (gs.takeWhile (· == 0)).length

/-- The first of the longest runs of zeros: where it starts and how long it is. -/
def longestRun : Nat → List Nat → Nat × Nat
  | _, [] => (0, 0)
  | at_, g :: gs =>
    let here := zeroRun (g :: gs)
    let later := longestRun (at_ + 1) gs
    if later.2 ≤ here then (at_, here) else later

def groupsText (gs : List Nat) : String :=
  ":".intercalate (gs.map fun g => String.ofList (Hex.digitsLower g))

/-- The usual form of an address. -/
def text (gs : List Nat) : String :=
  let run := longestRun 0 gs
  if run.2 < 2 then groupsText gs
  else groupsText (gs.take run.1) ++ "::" ++ groupsText (gs.drop (run.1 + run.2))

end PasswordGrant.Ipv6
