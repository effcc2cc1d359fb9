import PasswordGrant.Number.Shortest
import PasswordGrant.Text.Quoted

/-!
# Raw settings

Settings come from several sources as trees of values that do not yet have the kinds that are
needed. A value remembers its source, so that a complaint can name it; tables are put together from
all sources and belong to none.

* `RawScalar`, `Raw` : the values;
* `KeyPath.parse?` : a place in a tree, such as `server.realm` or `list[0]`;
* `Raw.merge` : laying one value over another; `Raw.setAt` : laying it over the value at a place.
-/

namespace PasswordGrant

/-- A value without parts. -/
inductive RawScalar where
  | null
  | flag (b : Bool)
  | integer (i : Int)
  | float (x : Binary64)
  | text (s : String)
  deriving DecidableEq, Repr

/-- A value of a source. -/
inductive Raw where
  | scalar (source : Option String) (value : RawScalar)
  | list (source : Option String) (items : List Raw)
  | table (source : Option String) (entries : List (String × Raw))
  deriving Repr

namespace Raw

def null : Raw := .scalar none .null

def emptyTable : Raw := .table none []

def source : Raw → Option String
  | .scalar s _ => s
  | .list s _ => s
  | .table s _ => s

/-- The entries of a table; none of anything else. -/
def entries : Raw → List (String × Raw)
  | .table _ es => es
  | _ => []

/-- A table as it is, and an empty one for anything else. -/
def asTable : Raw → Raw
  | .table s es => .table s es
  | _ => emptyTable

def withEntries (es : List (String × Raw)) : Raw → Raw
  | .table s _ => .table s es
  | _ => .table none es

def lookup? (key : String) : List (String × Raw) → Option Raw
  | [] => none
  | e :: es => if e.1 = key then some e.2 else lookup? key es

/-- Sets an entry in its place, or at the end. -/
def put (key : String) (value : Raw) : List (String × Raw) → List (String × Raw)
  | [] => [(key, value)]
  | e :: es => if e.1 = key then (key, value) :: es else e :: put key value es

/-! ### Laying values over values -/

mutual

/-- Lays a value over an old one: a table over a table entry by entry, and any other in its
place. -/
def merge (old : Raw) : Raw → Raw
  | .table _ es => old.asTable.withEntries (mergeEntries old.asTable.entries es)
  | v => v

def mergeEntries (old : List (String × Raw)) : List (String × Raw) → List (String × Raw)
  | [] => old
  | (key, value) :: es =>
    mergeEntries (put key (merge ((lookup? key old).getD null) value) old) es

end

theorem lookup?_put (key other : String) (v : Raw) (es : List (String × Raw)) :
    lookup? other (put key v es) = if other = key then some v else lookup? other es := by
  induction es with
  | nil => grind [put, lookup?]
  | cons e es ih => grind [put, lookup?]

end Raw

/-! ### Places -/

/-- A step from a value to a part of it. A negative index counts from the end. -/
inductive KeyStep where
  | key (name : String)
  | index (i : Int)
  deriving DecidableEq, Repr

namespace KeyPath

/-- The characters of a name in a place. -/
def isNameChar (c : Char) : Bool := c.isAlphanum || c = '-' || c = '_'

def natural? (cs : List Char) : Option Nat :=
  if cs.isEmpty || !cs.all Char.isDigit then none
  else some (cs.foldl (fun acc c => acc * 10 + (c.toNat - 48)) 0)

/-- A whole number of 64 bits with an optional minus sign. -/
def integer? (cs : List Char) : Option Int :=
  match cs with
  | '-' :: rest =>
    (natural? rest).bind fun n => if n ≤ 0x8000000000000000 then some (-n) else none
  | rest => (natural? rest).bind fun n => if n < 0x8000000000000000 then some n else none

/-- Reads the steps after the first name. Each takes a character at least. -/
def stepsWithin : Nat → List Char → Option (List KeyStep)
  | 0, _ => none
  | _ + 1, [] => some []
  | n + 1, c :: rest =>
    if c = '.' then
      let name := rest.takeWhile isNameChar
      if name.isEmpty then none
      else (stepsWithin n (rest.dropWhile isNameChar)).map (.key (String.ofList name) :: ·)
    else if c = '[' then
      match integer? (rest.takeWhile (· != ']')), rest.dropWhile (· != ']') with
      | some i, _ :: rest => (stepsWithin n rest).map (.index i :: ·)
      | _, _ => none
    else none

/-- Reads a place: a name, and names after points and indices in brackets. -/
def parse? (s : String) : Option (List KeyStep) :=
  let cs := s.toList
  let name := cs.takeWhile isNameChar
  if name.isEmpty then none
  else (stepsWithin (cs.length + 1) (cs.dropWhile isNameChar)).map
    (.key (String.ofList name) :: ·)

/-- Reads a place; a text that is none is a single name. -/
def ofKey (s : String) : List KeyStep := (parse? s).getD [.key s]

end KeyPath

namespace Raw

/-- The items of a list; none of anything else. -/
def items : Raw → List Raw
  | .list _ vs => vs
  | _ => []

/-- Changes an item of a list. The list grows as far as the index asks: at its end, or, for an
index too far before it, at its beginning. -/
def changeItem (change : Raw → Raw) (i : Int) (items : List Raw) : List Raw :=
  if 0 ≤ i then
    let grown := items ++ List.replicate (i.toNat + 1 - items.length) null
    grown.modify i.toNat change
  else
    let missing := i.natAbs - items.length
    let grown := List.replicate missing null ++ items
    grown.modify (items.length - i.natAbs) change

/-- Lays a value over the one at a place. What is in the way of the place is replaced. -/
def setAt (new : Raw) : List KeyStep → Raw → Raw
  | [], old => merge old new
  | .key name :: steps, old =>
    let es := old.asTable.entries
    old.asTable.withEntries (put name (setAt new steps ((lookup? name es).getD null)) es)
  | .index i :: steps, old =>
    .list (match old with
      | .list s _ => s
      | _ => none) (changeItem (setAt new steps) i old.items)

/-- Lays entries of a source over a tree; the keys are places. -/
def overlay (tree : Raw) (es : List (String × Raw)) : Raw :=
  es.foldl (fun acc e => setAt e.2 (KeyPath.ofKey e.1) acc) tree

end Raw

end PasswordGrant
