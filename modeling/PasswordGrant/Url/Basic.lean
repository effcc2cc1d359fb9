import PasswordGrant.Text.Split
import PasswordGrant.Url.Ipv6
import PasswordGrant.Url.Percent

/-!
# Addresses

An address of the web: scheme, user information, host, port, path, query and fragment. The path is
a list of segments with at least one member, and it grows segment by segment.

* `Host`, `Path`, `Url` : the parts; `Url.text` : the address as text;
* `Path.push`, `Path.pushAll` : putting segments at the end;
* `Path.dropFinalSlash` : a path without one slash at its end;
* `Url.cannotBeBase` : whether an address has no path that can grow;
* `Url.withoutUserInfo`, `Url.withoutFragment` : what is sent and shown of an address.
-/

namespace PasswordGrant

/-- The host of an address. -/
inductive Host where
  | domain (name : String)
  | ipv4 (address : Nat)
  | ipv6 (groups : List Nat)
  deriving DecidableEq, Repr

/-- A host as text. -/
def Host.text : Host → String
  | .domain name => name
  | .ipv4 address => Ipv4.text address
  | .ipv6 groups => "[" ++ Ipv6.text groups ++ "]"

/-- The segments of a path: those before the last one, and the last one. The path `/` has the empty
segment alone. -/
structure Path where
  init : List String
  last : String
  deriving DecidableEq, Repr

namespace Path

def root : Path := ⟨[], ""⟩

def segments (p : Path) : List String := p.init ++ [p.last]

/-- A slash before each segment. -/
def text (p : Path) : String := String.join (p.segments.map ("/" ++ ·))

/-- The segments that are left when a new one is put at the end: all of them, except that `/` has
none. -/
def base (p : Path) : List String := if p = root then [] else p.segments

def isDoubleDot (segment : List Char) : Bool :=
  segment == ['.', '.'] ||
    ["%2e%2e".toList, ".%2e".toList, "%2e.".toList].contains (segment.map Char.toLower)

def isSingleDot (segment : List Char) : Bool :=
  segment == ['.'] || segment.map Char.toLower == "%2e".toList

/-- Whether a segment looks like a drive: a letter with a colon or a bar. -/
def isDrive (segment : String) : Bool :=
  match segment.toList with
  | [c, d] => c.isAlpha && (d = ':' || d = '|')
  | _ => false

/-- The segments without the last one, which stays if it looks like a drive. -/
def shorten (segments : List String) : List String :=
  match segments.getLast? with
  | none => []
  | some s => if isDrive s then segments else segments.dropLast

/-- Puts the raw segments of a text after segments that are settled. A double dot takes one
away, a single dot adds nothing, and at the end each of them leaves an empty segment. -/
def resolve (set : Char → Bool) : List String → List (List Char) → Path
  | done, [] => ⟨done, ""⟩
  | done, [s] =>
    if isDoubleDot s then ⟨shorten done, ""⟩
    else if isSingleDot s then ⟨done, ""⟩
    else ⟨done, String.ofList (Percent.encode set s)⟩
  | done, s :: t :: rest =>
    if isDoubleDot s then resolve set (shorten done) (t :: rest)
    else if isSingleDot s then resolve set done (t :: rest)
    else resolve set (done ++ [String.ofList (Percent.encode set s)]) (t :: rest)

/-- Tabs and line ends, which an address does not hold. -/
def isDropped (c : Char) : Bool := c = '\t' || c = '\n' || c = '\r'

/-- Puts a segment at the end. A dot segment adds nothing. Tabs and line ends are dropped first
from any other, so it can still become one. -/
def push (p : Path) (segment : String) : Path :=
  if segment = "." ∨ segment = ".." then p
  else
    let cs := segment.toList.filter fun c => !isDropped c
    if cs = ['.', '.'] then ⟨shorten p.base, ""⟩
    else if cs = ['.'] then ⟨p.base, ""⟩
    else ⟨p.base, String.ofList (Percent.encode Percent.inSegment cs)⟩

/-- Puts segments at the end, one after the other. -/
def pushAll (p : Path) (segments : List String) : Path := segments.foldl push p

/-- The path without the slash at its end, if it has one and is not `/`. -/
def dropFinalSlash (p : Path) : Path :=
  match p.last.isEmpty, p.init.getLast? with
  | true, some s => ⟨p.init.dropLast, s⟩
  | _, _ => p

end Path

/-- An address of the web. User name, password, query and fragment are in their encoded form. -/
structure Url where
  secure : Bool
  username : String
  password : Option String
  host : Host
  port : Option Nat
  path : Path
  query : Option String
  fragment : Option String
  deriving DecidableEq, Repr

namespace Url

def scheme (u : Url) : String := if u.secure then "https" else "http"

/-- The user information with its at sign; empty if there is none. -/
def userInfoText (u : Url) : String :=
  match u.password with
  | some p => u.username ++ ":" ++ p ++ "@"
  | none => if u.username.isEmpty then "" else u.username ++ "@"

def hostText (u : Url) : String :=
  u.host.text ++ match u.port with
    | some p => ":" ++ p.repr
    | none => ""

/-- A marked part; empty if there is none. -/
def marked (mark : String) : Option String → String
  | none => ""
  | some s => mark ++ s

/-- The address as text. -/
def text (u : Url) : String :=
  u.scheme ++ "://" ++ u.userInfoText ++ u.hostText ++ u.path.text ++ marked "?" u.query
    ++ marked "#" u.fragment

/-- The address without user information. -/
def withoutUserInfo (u : Url) : Url := { u with username := "", password := none }

/-- The address without fragment. -/
def withoutFragment (u : Url) : Url := { u with fragment := none }

/-- Whether the path of an address is taken for a text without segments: that is so if no slash stands
behind the scheme and its colon. Nothing can be put at the end of such a path. -/
def cannotBeBase (u : Url) : Bool :=
  (u.text.toList.drop (u.scheme.length + 1)).head? != some '/'

theorem cannotBeBase_eq_false (u : Url) : u.cannotBeBase = false := by
  have htext : ∃ rest, u.text.toList = u.scheme.toList ++ ':' :: '/' :: rest :=
    ⟨'/' :: (u.userInfoText ++ u.hostText ++ u.path.text ++ marked "?" u.query
      ++ marked "#" u.fragment).toList, by simp [text]⟩
  obtain ⟨rest, hrest⟩ := htext
  have hbehind : u.text.toList.drop (u.scheme.length + 1) = '/' :: rest := by
    rw [hrest, ← String.length_toList, List.drop_append]
    simp
  rw [cannotBeBase, hbehind]
  rfl

/-- The user information that is sent in a header: name and password, decoded. There is none where
the name or all there is of it cannot be decoded. -/
def basicUser? (u : Url) : Option (String × Option String) := do
  let name ← Percent.decodeText? u.username
  let password := u.password.bind Percent.decodeText?
  if !name.isEmpty || password.isSome then some (name, password) else none

end Url

end PasswordGrant
