import PasswordGrant.Json.Reader
import PasswordGrant.Settings.Basic
import PasswordGrant.Settings.Toml
import PasswordGrant.Text.Split

/-!
# Settings from a file

The ending of a file's name tells how the file is written. A name without a known ending may stand
for the file with one of the endings appended. A file that need not exist is as good as empty when it
does not, and a name that tells no format is no file either. Which formats are known, and in which order
their endings are tried, is left open; two of them are given here.

* `FileFormat`, `Directory` : the formats that are known, and the files that can be read;
* `FileFormat.ofName?`, `FilePath.normal`, `FilePath.candidates` : from a name to files and formats;
* `SettingsFile.find` : the file that a name stands for;
* `SettingsFile.entries` : the settings of a file;
* `FileFormat.toml`, `FileFormat.json` : two formats.
-/

namespace PasswordGrant

/-- How a file of settings may be written: the endings that tell so, and how the settings are read from the
name of a file and its text. -/
structure FileFormat where
  endings : List String
  read? : String → String → Option (List (String × Raw))

/-- What is known of files: the texts of those that can be read, by normal name, and the formats, in the
order in which their endings are tried. -/
structure Directory where
  text? : String → Option String
  formats : List FileFormat

namespace FilePath

def parts (path : String) : List String :=
  (Text.splitOn (· == '/') path.toList).map String.ofList

/-- The parts of a name that lead somewhere else than where they stand. -/
def steps (path : String) : List String :=
  (parts path).filter fun p => p != "" && p != "."

/-- The normal name of a file: without parts that lead nowhere. -/
def normal (path : String) : String :=
  (if path.toList.head? = some '/' then "/" else "") ++ "/".intercalate (steps path)

/-- Whether a name ends with a part that only a directory can have behind it. -/
def namesDirectory (path : String) : Bool :=
  match (parts path).getLast? with
  | some last => last == "" || last == "."
  | none => true

/-- The part behind the last point of a file's name; a point at its beginning does not count. -/
def ending? (path : String) : Option String :=
  match (steps path).getLast? with
  | none => none
  | some last =>
    match (Text.splitOn (· == '.') last.toList).reverse with
    | e :: stem :: more => if stem.isEmpty && more.isEmpty then none else some (String.ofList e)
    | _ => none

/-- The names with a known ending that a name may stand for. -/
def candidates (formats : List FileFormat) (path : String) : List (String × FileFormat) :=
  if (steps path).isEmpty then []
  else formats.flatMap fun f => f.endings.map fun e => (normal path ++ "." ++ e, f)

/-- All names that a name may stand for. -/
def possible (formats : List FileFormat) (path : String) : List String :=
  normal path :: (candidates formats path).map (·.1)

end FilePath

/-- The format of a file, as its name tells. -/
def FileFormat.ofName? (formats : List FileFormat) (path : String) : Option FileFormat :=
  (FilePath.ending? path).bind fun e => formats.find? fun f => f.endings.contains e

namespace SettingsFile

/-- A file that was found: its normal name, its format, and its text. -/
structure Found where
  name : String
  format : FileFormat
  content : String

/-- The file that a name stands for. -/
def find (directory : Directory) (path : String) : Except SettingsError Found :=
  let name := FilePath.normal path
  match (if FilePath.namesDirectory path then none else directory.text? name) with
  | some content =>
    match FileFormat.ofName? directory.formats path with
    | some format => .ok ⟨name, format, content⟩
    | none => .error (.formatUnknown name)
  | none =>
    match (FilePath.candidates directory.formats path).findSome? fun c =>
        (directory.text? c.1).map fun content => (⟨c.1, c.2, content⟩ : Found) with
    | some found => .ok found
    | none => .error (.fileMissing path)

/-- A text without the mark that some editors put at its beginning. -/
def withoutMark (content : String) : String :=
  match content.toList with
  | c :: rest => if c.toNat = 0xFEFF then String.ofList rest else content
  | [] => content

/-- The settings of a file that was found. -/
def Found.entries (f : Found) : Except SettingsError (List (String × Raw)) :=
  match f.format.read? f.name (withoutMark f.content) with
  | some es => .ok es
  | none => .error (.fileUnreadable f.name)

/-- The settings of the file that a name stands for. -/
def entries (directory : Directory) (path : String) (required : Bool) :
    Except SettingsError (List (String × Raw)) :=
  match find directory path with
  | .ok found => found.entries
  | .error e => if required then .error e else .ok []

/-! ### Settings in a document -/

/-- A number of a document; one that is no whole number of 64 bits with a sign is binary. -/
def rawNumber : Json.Number → RawScalar
  | .natural n =>
    if n < 0x8000000000000000 then .integer n else .float (Binary64.ofDecimal false n 0)
  | .negative i => .integer i
  | .float x => .float x

mutual

/-- A value of a document as a raw setting. -/
def rawOfJson (source : Option String) : Json → Raw
  | .null => .scalar source .null
  | .bool b => .scalar source (.flag b)
  | .number n => .scalar source (rawNumber n)
  | .text s => .scalar source (.text s)
  | .array items => .list source (rawItems source items)
  | .object members => .table source (rawMembers source members)

/-- The items of an array as raw settings. -/
def rawItems (source : Option String) : List Json → List Raw
  | [] => []
  | v :: vs => rawOfJson source v :: rawItems source vs

/-- The members of an object as raw settings. -/
def rawMembers (source : Option String) : List (String × Json) → List (String × Raw)
  | [] => []
  | (name, v) :: ms => (name, rawOfJson source v) :: rawMembers source ms

end

/-- The settings of a document, which must be an object. -/
def jsonEntries? (source content : String) : Option (List (String × Raw)) :=
  match Json.parse content with
  | .ok (.object members) => some (rawMembers (some source) members)
  | _ => none

end SettingsFile

namespace FileFormat

/-- TOML: statements, some of them under headers that name tables. -/
def toml : FileFormat := ⟨["toml"], Toml.parse?⟩

/-- JSON: one object. -/
def json : FileFormat := ⟨["json"], SettingsFile.jsonEntries?⟩

end FileFormat

end PasswordGrant
