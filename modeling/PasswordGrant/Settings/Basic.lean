import PasswordGrant.RealmClient
import PasswordGrant.Settings.Numeral
import PasswordGrant.Settings.Raw
import PasswordGrant.Unicode.LowerCase

/-!
# Settings

What the program needs to know, and how raw settings become that: texts, numbers and truth values
are converted where they can be, and a complaint says what was found, what was expected, and where.

* `Settings` : the settings; `Settings.client`, `Settings.credentials` : what follows from them;
* `SettingsError` : the complaints; `SettingsError.message` : their wording;
* `Raw.toText`, `Raw.toNatural`, `Raw.toFlag`, `Raw.toKind` : the conversions;
* `Settings.ofRaw` : the settings of a tree.
-/

namespace PasswordGrant

/-- The settings of the program. The context path of `server` is as it was given. -/
structure Settings where
  server : RealmClient
  credentials : Credentials
  timeoutSeconds : Nat
  logFilter : String
  waitForEnter : Bool
  deriving DecidableEq, Repr

namespace Settings

/-- The client that the settings describe. -/
def client (s : Settings) : RealmClient := s.server.withContextPath s.server.contextPath

/-- The diagnostic text, without secret and password. -/
def debug (s : Settings) : String :=
  let hidden := Quoted.quote "[REDACTED]"
  Quoted.record "CheckerConfig"
    [("server", Quoted.record "ServerSection"
       [("base_url", Quoted.quote s.server.baseUrl), ("realm", Quoted.quote s.server.realm),
        ("client_type", s.server.kind.debug), ("client_id", Quoted.quote s.server.clientId),
        ("client_secret", hidden), ("context_path", Quoted.quote s.server.contextPath)]),
     ("credentials", Quoted.record "CredentialsSection"
       [("username", Quoted.quote s.credentials.username), ("password", hidden),
        ("scope", Quoted.quote s.credentials.scope)]),
     ("timeout_secs", s.timeoutSeconds.repr), ("log_filter", Quoted.quote s.logFilter),
     ("wait_for_enter", if s.waitForEnter then "true" else "false")]

end Settings

/-! ### Complaints -/

/-- Why settings cannot be used. -/
inductive SettingsError where
  /-- A value cannot be converted. -/
  | wrongType (found expected key : String) (source : Option String)
  /-- A value has not the parts that are needed. -/
  | wrongShape (problem key : String)
  /-- There is no such file. -/
  | fileMissing (name : String)
  /-- The name of a file does not tell its format. -/
  | formatUnknown (name : String)
  /-- A file is not written as its name tells. -/
  | fileUnreadable (name : String)
  /-- A value is not among those allowed. -/
  | outOfRange (key problem : String)
  deriving DecidableEq, Repr

namespace SettingsError

/-- The wording of a complaint about a source. -/
def detail : SettingsError → String
  | .wrongType found expected key source =>
    "invalid type: " ++ found ++ ", expected " ++ expected ++ " for key `" ++ key ++ "`"
      ++ match source with
        | some s => " in " ++ s
        | none => ""
  | .wrongShape problem key => problem ++ " for key `" ++ key ++ "`"
  | .fileMissing name => "configuration file \"" ++ name ++ "\" not found"
  | .formatUnknown name =>
    "configuration file \"" ++ name ++ "\" is not of a registered file format"
  | .fileUnreadable name => "syntax error in " ++ name
  | .outOfRange key problem => "invalid setting `" ++ key ++ "`: " ++ problem

/-- The wording of a complaint. -/
def message (e : SettingsError) : String :=
  match e with
  | .outOfRange .. => e.detail
  | _ => "configuration error: " ++ e.detail

def debug (e : SettingsError) : String :=
  match e with
  | .outOfRange key problem => Quoted.record "InvalidSetting"
      [("key", Quoted.quote key), ("message", Quoted.quote problem)]
  | _ => "Config(" ++ e.detail ++ ")"

end SettingsError

/-! ### Conversions -/

def RawScalar.integerText (i : Int) : String := (if i < 0 then "-" else "") ++ i.natAbs.repr

def RawScalar.flagText (b : Bool) : String := if b then "true" else "false"

namespace Raw

/-- What a value that cannot be converted is called. -/
def describe : Raw → String
  | .list .. => "sequence"
  | .table .. => "map"
  | .scalar _ v =>
    match v with
    | .null => "unit value"
    | .flag b => "boolean `" ++ RawScalar.flagText b ++ "`"
    | .integer i => "64-bit integer `" ++ RawScalar.integerText i ++ "`"
    | .float x => "floating point `" ++ x.plainText ++ "`"
    | .text s => "string " ++ Quoted.quote s

/-- What a value that stands for a section is called. -/
def describeSection : Raw → String
  | .scalar _ (.integer i) => "integer `" ++ RawScalar.integerText i ++ "`"
  | .scalar _ (.float x) => "floating point `" ++ x.pointedText ++ "`"
  | v => v.describe

/-- The complaint about a value of another kind. -/
def mismatch (v : Raw) (expected key : String) : SettingsError :=
  .wrongType v.describe expected key v.source

/-- A text; numbers and truth values are written out. -/
def toText (key : String) (v : Raw) : Except SettingsError String :=
  match v with
  | .scalar _ (.text s) => .ok s
  | .scalar _ (.flag b) => .ok (RawScalar.flagText b)
  | .scalar _ (.integer i) => .ok (RawScalar.integerText i)
  | .scalar _ (.float x) => .ok x.plainText
  | v => .error (v.mismatch "a string" key)

def trueWords : List String := ["true", "on", "yes"]

def falseWords : List String := ["false", "off", "no"]

/-- A whole number from zero up; numbers are rounded, and words for truth values count as one and
zero. -/
def toNatural (key : String) (v : Raw) : Except SettingsError Nat :=
  match v with
  | .scalar _ (.integer i) =>
    if 0 ≤ i then .ok i.toNat
    else .error (v.mismatch "an unsigned 64 bit or less integer" key)
  | .scalar _ (.float x) => .ok x.toNatSaturating
  | .scalar _ (.flag b) => .ok (if b then 1 else 0)
  | .scalar _ (.text s) =>
    let lower := String.ofList (Unicode.lower s.toList)
    if trueWords.contains lower then .ok 1
    else if falseWords.contains lower then .ok 0
    else match Numeral.natural? s with
      | some n => .ok n
      | none => .error (v.mismatch "an integer" key)
  | v => .error (v.mismatch "an integer" key)

/-- A truth value: a word for it, or a number, which is false where it is zero. -/
def toFlag (key : String) (v : Raw) : Except SettingsError Bool :=
  match v with
  | .scalar _ (.flag b) => .ok b
  | .scalar _ (.integer i) => .ok (i != 0)
  | .scalar _ (.float x) => .ok (!x.isZero)
  | .scalar source (.text s) =>
    let lower := String.ofList (Unicode.lower s.toList)
    if ("1" :: trueWords).contains lower then .ok true
    else if ("0" :: falseWords).contains lower then .ok false
    else .error ((Raw.scalar source (.text lower)).mismatch "a boolean" key)
  | v => .error (v.mismatch "a boolean" key)

/-- The kind of a client: its name, or a table with it as the only key. -/
def toKind (key : String) (v : Raw) : Except SettingsError ClientKind :=
  let named (name : String) : Except SettingsError ClientKind :=
    match ClientKind.ofName? name with
    | some kind => .ok kind
    | none =>
      .error (.wrongShape ("enum ClientType does not have variant constructor " ++ name) key)
  match v with
  | .scalar _ (.text s) => named s
  | .table _ [e] => named e.1
  | _ => .error (.wrongShape ("value of enum ClientType should be represented by either string "
      ++ "or table with exactly one key") key)

end Raw

/-! ### Sections -/

/-- A section of the settings: its name, the word for it in complaints, and its fields in order,
with a text for those that may be missing. -/
structure Section where
  name : String
  word : String
  fields : List (String × Option String)

namespace Section

def server : Section where
  name := "server"
  word := "ServerSection"
  fields := [("base_url", none), ("realm", none), ("client_type", none), ("client_id", none),
    ("client_secret", some ""), ("context_path", none)]

/-- The section about the user. -/
def credentials : Section where
  name := "credentials"
  word := "CredentialsSection"
  fields := [("username", none), ("password", some ""), ("scope", some "")]

/-- The value of a field and its key: by name in a table, by position in a list. -/
def field (s : Section) (v : Raw) (position : Nat) (name : String) (fallback : Option String) :
    Except SettingsError (String × Raw) :=
  let found (key : String) (value : Option Raw) (problem : String) :
      Except SettingsError (String × Raw) :=
    match value, fallback with
    | some value, _ => .ok (s.name ++ key, value)
    | none, some text => .ok (s.name ++ key, .scalar none (.text text))
    | none, none => .error (.wrongShape problem s.name)
  match v with
  | .table _ es => found ("." ++ name) (Raw.lookup? name es) ("missing field `" ++ name ++ "`")
  | .list _ vs =>
    found ("[" ++ position.repr ++ "]") vs[position]?
      ("invalid length " ++ position.repr ++ ", expected struct " ++ s.word ++ " with "
        ++ s.fields.length.repr ++ " elements")
  | v => .error (.wrongShape ("invalid type: " ++ v.describeSection ++ ", expected struct "
      ++ s.word) s.name)

/-- Reads the field at a position. A section has no other fields than those it lists, so asking for
one beyond them is answered as for a missing one. -/
def read {α : Type} (s : Section) (v : Raw) (position : Nat)
    (convert : String → Raw → Except SettingsError α) : Except SettingsError α :=
  let (name, fallback) := s.fields[position]?.getD ("", none)
  (s.field v position name fallback).bind fun f => convert f.1 f.2

end Section

namespace Settings

def serverOfRaw (v : Raw) : Except SettingsError RealmClient := do
  pure
    { baseUrl := ← Section.server.read v 0 Raw.toText
      realm := ← Section.server.read v 1 Raw.toText
      kind := ← Section.server.read v 2 Raw.toKind
      clientId := ← Section.server.read v 3 Raw.toText
      secret := ← Section.server.read v 4 Raw.toText
      contextPath := ← Section.server.read v 5 Raw.toText }

def credentialsOfRaw (v : Raw) : Except SettingsError Credentials := do
  pure
    { username := ← Section.credentials.read v 0 Raw.toText
      password := ← Section.credentials.read v 1 Raw.toText
      scope := ← Section.credentials.read v 2 Raw.toText }

def readEntry {α : Type} (es : List (String × Raw)) (name : String)
    (convert : String → Raw → Except SettingsError α) : Except SettingsError α :=
  match Raw.lookup? name es with
  | some v => convert name v
  | none => .error (.wrongShape ("missing field `" ++ name ++ "`") "")

/-- The settings of a tree. A request must be given some time. -/
def ofRaw (tree : Raw) : Except SettingsError Settings := do
  let es := tree.entries
  let settings : Settings :=
    { server := ← readEntry es "server" fun _ v => serverOfRaw v
      credentials := ← readEntry es "credentials" fun _ v => credentialsOfRaw v
      timeoutSeconds := ← readEntry es "timeout_secs" Raw.toNatural
      logFilter := ← readEntry es "log_filter" Raw.toText
      waitForEnter := ← readEntry es "wait_for_enter" Raw.toFlag }
  if settings.timeoutSeconds = 0 then
    .error (.outOfRange "timeout_secs" "must be greater than zero")
  else .ok settings

end Settings

end PasswordGrant
