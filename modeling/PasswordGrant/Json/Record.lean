import PasswordGrant.Json.Typed

/-!
# Reading records

A record is a JSON object with known fields. Each field has a name, other spellings of it, and a
kind. Fields come in any order, a field may come once under all its spellings together, and members
with other names are passed over. A record may also be written as an array, field after field in
the order of the schema.

* `Schema`, `Field`, `Kind` : what is expected; `Slot`, `Slots` : what was read;
* `Schema.read` : reads a record; `Schema.parse` : reads a document that is one.
-/

namespace PasswordGrant.Json

/-- What a field may hold. -/
inductive Kind where
  | text
  | optionalText
  | optionalNatural
  | optionalInteger
  | flag
  | texts
  | audience
  deriving DecidableEq, Repr

/-- A value of a field; `absent` is what `null` stands for in an optional field. -/
inductive Slot where
  | absent
  | text (s : String)
  | natural (n : Nat)
  | integer (i : Int)
  | flag (b : Bool)
  | texts (l : List String)
  deriving DecidableEq, Repr

/-- A field of a record. -/
structure Field where
  name : String
  spellings : List String
  kind : Kind
  required : Bool
  deriving DecidableEq, Repr

/-- A field that may be missing, with its own name only. -/
def Field.plain (name : String) (kind : Kind) : Field := ⟨name, [], kind, false⟩

/-- A field that may be missing, with a second spelling. -/
def Field.spelled (name spelling : String) (kind : Kind) : Field := ⟨name, [spelling], kind, false⟩

/-- Whether a member of this name is the field. -/
def Field.goesBy (f : Field) (name : String) : Bool := f.name = name || f.spellings.contains name

/-- The fields of a record and the word for it in faults. -/
structure Schema where
  name : String
  fields : List Field
  deriving DecidableEq, Repr

/-- The field that a member of this name is. -/
def Schema.field? (schema : Schema) (name : String) : Option Field :=
  schema.fields.find? (·.goesBy name)

/-- The fields that were read, by their own names. -/
abbrev Slots := List (String × Slot)

/-- The value that was read for a field. -/
def Slots.get (slots : Slots) (name : String) : Slot := (slots.lookup name).getD .absent

def Slots.text? (slots : Slots) (name : String) : Option String :=
  match slots.get name with
  | .text s => some s
  | _ => none

def Slots.natural? (slots : Slots) (name : String) : Option Nat :=
  match slots.get name with
  | .natural n => some n
  | _ => none

/-- The number of either sign of a field. -/
def Slots.integer? (slots : Slots) (name : String) : Option Int :=
  match slots.get name with
  | .integer i => some i
  | _ => none

/-- The truth value of a field, false where it is missing. -/
def Slots.flag (slots : Slots) (name : String) : Bool :=
  match slots.get name with
  | .flag b => b
  | _ => false

/-- The texts of a field, none where it is missing. -/
def Slots.texts (slots : Slots) (name : String) : List String :=
  match slots.get name with
  | .texts l => l
  | _ => []

def Slot.ofOption {α : Type} (slot : α → Slot) : Option α → Slot
  | none => .absent
  | some x => slot x

/-- Reads the value of a field. -/
def Kind.read (kind : Kind) (s : List Char) : Except Fault (Slot × List Char) :=
  match kind with
  | .text => (readString s).map fun r => (.text r.1, r.2)
  | .optionalText => (readOptional readString s).map fun r => (.ofOption .text r.1, r.2)
  | .optionalNatural => (readOptional readNatural s).map fun r => (.ofOption .natural r.1, r.2)
  | .optionalInteger => (readOptional readInteger s).map fun r => (.ofOption .integer r.1, r.2)
  | .flag => (readFlag s).map fun r => (.flag r.1, r.2)
  | .texts => (readStrings s).map fun r => (.texts r.1, r.2)
  | .audience => (readAudience s).map fun r => (.texts r.1, r.2)

namespace Schema

/-- Reads one member: a known field that was not read before, or anything else. -/
def readMember (schema : Schema) (slots : Slots) (name : String) (s : List Char) :
    Except Fault (Slots × List Char) :=
  match schema.field? name with
  | none => do
    let rest ← readColon s
    let rest ← skipValue rest
    .ok (slots, rest)
  | some field =>
    if (slots.lookup field.name).isSome then
      .error (.unsettled (.duplicateField field.name) s)
    else do
      let rest ← readColon s
      let (slot, rest) ← field.kind.read rest
      .ok (slots ++ [(field.name, slot)], rest)

/-- Refuses a record without one of its required fields. -/
def checkRequired (schema : Schema) : Slots × List Char → Except Fault (Slots × List Char)
  | (slots, rest) =>
    match schema.fields.find? (fun f => f.required && (slots.lookup f.name).isNone) with
    | some f => .error (.unsettled (.missingField f.name) rest)
    | none => .ok (slots, rest)

/-- Reads fields in the order of the schema; those beyond the end of the array are missing. -/
def readPositions (schema : Schema) : List Field → Slots → List Char →
    Except Fault (Slots × List Char)
  | [], slots, s => .ok (slots, s)
  | field :: fields, slots, s => do
    let (more, rest) ← nextElement slots.isEmpty s
    if more then
      let (slot, rest) ← field.kind.read rest
      readPositions schema fields (slots ++ [(field.name, slot)]) rest
    else if field.required then
      .error (.unsettled (.wrongLength slots.length
        ("struct " ++ schema.name ++ " with " ++ schema.fields.length.repr ++ " elements")) rest)
    else readPositions schema fields slots rest

/-- Reads a record. -/
def read (schema : Schema) (s : List Char) : Except Fault (Slots × List Char) :=
  match skipBlanks s with
  | [] => .error (.here .valueUnfinished [])
  | c :: rest =>
    if c = '[' then leaveArray (readPositions schema schema.fields [] rest)
    else if c = '\x7b' then
      leaveObject (readMembers schema.readMember [] rest >>= schema.checkRequired)
    else .error (wrongType ("struct " ++ schema.name) (c :: rest))

/-- Reads a document that is a record. -/
def parse (schema : Schema) (s : String) : Except Fault Slots := finish (schema.read s.toList)

end Schema

end PasswordGrant.Json
