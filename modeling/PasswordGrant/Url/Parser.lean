import PasswordGrant.Idna.Domain
import PasswordGrant.Url.Basic

/-!
# Reading addresses

Reads an absolute address. Addresses with another scheme than `http` and `https` are told apart
from texts that are no address: their host and port are checked as well.

* `UrlError` : why a text is no address; `UrlError.message` : the wording;
* `Host.parse` : reads a host;
* `Address.parse` : reads an address.
-/

namespace PasswordGrant

/-- Why a text is no address. -/
inductive UrlError where
  | relativeWithoutBase
  | emptyHost
  | invalidPort
  | invalidIpv4
  | invalidIpv6
  | invalidDomain
  | forbiddenCharacter
  deriving DecidableEq, Repr

/-- The wording of an error. -/
def UrlError.message : UrlError → String
  | .relativeWithoutBase => "relative URL without a base"
  | .emptyHost => "empty host"
  | .invalidPort => "invalid port number"
  | .invalidIpv4 => "invalid IPv4 address"
  | .invalidIpv6 => "invalid IPv6 address"
  | .invalidDomain => "invalid international domain name"
  | .forbiddenCharacter => "invalid domain character"

/-! ### Hosts -/

/-- Reads the inside of a host in brackets, from after the opening one on. -/
def Host.parseBracketed (cs : List Char) : Except UrlError Host :=
  if cs.getLast? = some ']' then
    match Ipv6.parse? cs.dropLast with
    | some groups => .ok (.ipv6 groups)
    | none => .error .invalidIpv6
  else .error .invalidIpv6

/-- Reads the host of an address of the web: an address of sixteen bytes in brackets, or a domain
name, which may be encoded and may be an address of four bytes. -/
def Host.parse (cs : List Char) : Except UrlError Host :=
  match cs with
  | '[' :: inside => Host.parseBracketed inside
  | _ =>
    match (Utf8.decode? (Percent.decode cs)).bind Idna.toAscii? with
    | none => .error .invalidDomain
    | some [] => .error .emptyHost
    | some name =>
      if Ipv4.isNumeric name then
        match Ipv4.parse? name with
        | some address => .ok (.ipv4 address)
        | none => .error .invalidIpv4
      else .ok (.domain (String.ofList name))

/-- Characters that may not stand in a host of any other scheme. -/
def isForbiddenInHost (c : Char) : Bool :=
  c.toNat = 0 || " #/:<>?@[\\]^|\t\n\r".toList.contains c

/-- Checks the host of an address with another scheme. -/
def Host.checkOpaque (cs : List Char) : Except UrlError Unit :=
  match cs with
  | '[' :: inside => (Host.parseBracketed inside).map fun _ => ()
  | _ => if cs.any isForbiddenInHost then .error .forbiddenCharacter else .ok ()

/-! ### The parts of an address -/

/-- The schemes by how their addresses are built. -/
inductive SchemeKind where
  | special (defaultPort : Nat)
  | file
  | other
  deriving DecidableEq, Repr

def SchemeKind.of (scheme : String) : SchemeKind :=
  if scheme = "http" ∨ scheme = "ws" then .special 80
  else if scheme = "https" ∨ scheme = "wss" then .special 443
  else if scheme = "ftp" then .special 21
  else if scheme = "file" then .file
  else .other

namespace SchemeKind

def isSpecial : SchemeKind → Bool
  | .other => false
  | _ => true

def defaultPort? : SchemeKind → Option Nat
  | .special port => some port
  | _ => none

/-- The characters that end the part with user, host and port. -/
def endsAuthority (kind : SchemeKind) (c : Char) : Bool :=
  c = '/' || c = '?' || c = '#' || (kind.isSpecial && c = '\\')

end SchemeKind

def splitScheme (cs : List Char) : Option (String × List Char) :=
  let name := cs.takeWhile fun c => c.isAlphanum || c = '+' || c = '-' || c = '.'
  match name, cs.dropWhile (fun c => c.isAlphanum || c = '+' || c = '-' || c = '.') with
  | c :: _, ':' :: rest =>
    if c.isAlpha then some (String.ofList (name.map Char.toLower), rest) else none
  | _, _ => none

/-- User information, encoded: the name up to the first colon, and the password. An empty password
is none. -/
def readUserInfo (cs : List Char) : String × Option String :=
  let encoded (part : List Char) : String := String.ofList (Percent.encode Percent.inUserInfo part)
  let password := (cs.dropWhile (· != ':')).drop 1
  (encoded (cs.takeWhile (· != ':')), if password.isEmpty then none else some (encoded password))

/-- A text split at the last of its at signs. -/
def splitLastAt (cs : List Char) : Option (List Char × List Char) :=
  let after := (cs.reverse.takeWhile (· != '@')).reverse
  if cs.contains '@' then some (cs.take (cs.length - after.length - 1), after) else none

/-- The characters of a host: up to a colon that is not in brackets. -/
def takeHost : Bool → List Char → List Char × List Char
  | _, [] => ([], [])
  | inside, c :: rest =>
    if c = ':' ∧ inside = false then ([], c :: rest)
    else
      let (host, rest) :=
        takeHost (if c = '[' then true else if c = ']' then false else inside) rest
      (c :: host, rest)

/-- Reads a port after its colon; `none` where it is the default or there are no digits. -/
def readPort (default : Option Nat) (cs : List Char) : Except UrlError (Option Nat) :=
  if cs.all Ipv4.isDigit then
    let value := cs.foldl (fun acc c => min 65536 (acc * 10 + (c.toNat - 48))) 0
    if 65535 < value then .error .invalidPort
    else if cs.isEmpty ∨ default = some value then .ok none
    else .ok (some value)
  else .error .invalidPort

/-- User information, host and port of an address. -/
structure Authority (α : Type) where
  username : String
  password : Option String
  host : α
  port : Option Nat

/-- Reads user information, host and port; `readHost` reads the host. `more` tells whether anything
follows. Without a host there can be no port and no user information. -/
def Authority.parse {α : Type} (readHost : List Char → Except UrlError α) (kind : SchemeKind)
    (cs : List Char) (more : Bool) : Except UrlError (Authority α) := do
  let (user, rest) ← match splitLastAt cs with
    | none => pure ([], cs)
    | some ([], rest) => if rest.isEmpty && more then throw .emptyHost else pure ([], rest)
    | some (user, rest) => pure (user, rest)
  let (username, password) := readUserInfo user
  let (hostText, rest) := takeHost false rest
  if hostText.isEmpty && kind.isSpecial then throw .emptyHost
  let host ← readHost hostText
  if hostText.isEmpty && rest.head? == some ':' then throw .emptyHost
  let port ← readPort kind.defaultPort? ((rest.drop 1).takeWhile (· != '\\'))
  if hostText.isEmpty && (!username.isEmpty || password.isSome) then throw .emptyHost
  pure ⟨username, password, host, port⟩

/-! ### Addresses -/

/-- An address: of the web, or with another scheme. -/
inductive Address where
  | web (url : Url)
  | other (scheme : String)
  deriving DecidableEq, Repr

namespace Address

/-- Splits the part with user, host and port from what follows. -/
def splitAuthority (kind : SchemeKind) (cs : List Char) : List Char × List Char :=
  (cs.takeWhile fun c => !kind.endsAuthority c, cs.dropWhile fun c => !kind.endsAuthority c)

/-- The path of the text after the host: slashes of both kinds separate segments. -/
def readPath (cs : List Char) : Path :=
  let raw := cs.takeWhile fun c => c != '?' && c != '#'
  match raw with
  | [] => .root
  | _ :: rest =>
    Path.resolve Percent.inPath [] (Text.splitOn (fun c => c == '/' || c == '\\') rest)

/-- The query of the text after the host. -/
def readQuery (cs : List Char) : Option String :=
  match (cs.takeWhile (· != '#')).dropWhile (· != '?') with
  | [] => none
  | _ :: query => some (String.ofList (Percent.encode Percent.inQuery query))

/-- The fragment of the text after the host. -/
def readFragment (cs : List Char) : Option String :=
  match cs.dropWhile (· != '#') with
  | [] => none
  | _ :: fragment => some (String.ofList (Percent.encode Percent.inFragment fragment))

/-- Reads an address of one of the schemes with host, from after the colon on. -/
def parseSpecial (scheme : String) (port : Nat) (cs : List Char) : Except UrlError Address := do
  let kind := SchemeKind.special port
  let (inside, rest) := splitAuthority kind (cs.dropWhile fun c => c = '/' || c = '\\')
  let authority ← Authority.parse Host.parse kind inside (!rest.isEmpty)
  if scheme = "http" ∨ scheme = "https" then
    pure (.web
      { secure := scheme == "https"
        username := authority.username
        password := authority.password
        host := authority.host
        port := authority.port
        path := readPath rest
        query := readQuery rest
        fragment := readFragment rest })
  else pure (.other scheme)

/-- Checks the host of a file address, from after the colon on. A drive is no host. -/
def checkFile (cs : List Char) : Except UrlError Unit :=
  match cs with
  | c :: d :: rest =>
    if (c = '/' ∨ c = '\\') ∧ (d = '/' ∨ d = '\\') then
      let host := (splitAuthority .file rest).1
      if host.isEmpty ∨ Path.isDrive (String.ofList host) then .ok ()
      else (Host.parse host).map fun _ => ()
    else .ok ()
  | _ => .ok ()

/-- Checks an address with any other scheme, from after the colon on. -/
def checkOther (cs : List Char) : Except UrlError Unit :=
  match cs with
  | '/' :: '/' :: rest =>
    let (inside, after) := splitAuthority .other rest
    (Authority.parse Host.checkOpaque .other inside (!after.isEmpty)).map fun _ => ()
  | _ => .ok ()

/-- A text without controls and spaces at its ends, and without tabs and line ends. -/
def clean (cs : List Char) : List Char :=
  let isOuter (c : Char) : Bool := c.toNat ≤ 0x20
  (((cs.dropWhile isOuter).reverse.dropWhile isOuter).reverse).filter fun c => !Path.isDropped c

/-- Reads an address. -/
def parse (s : String) : Except UrlError Address :=
  match splitScheme (clean s.toList) with
  | none => .error .relativeWithoutBase
  | some (scheme, rest) =>
    match SchemeKind.of scheme with
    | .special port => parseSpecial scheme port rest
    | .file => (checkFile rest).map fun _ => .other scheme
    | .other => (checkOther rest).map fun _ => .other scheme

end Address

end PasswordGrant
