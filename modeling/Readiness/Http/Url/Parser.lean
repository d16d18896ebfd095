import Readiness.Http.Url
import Readiness.Http.Url.Domain
import Readiness.Http.Url.Percent

/-!
# Reading URLs

`Url.parse` reads a text as the URL Standard says. Control characters and spaces at both ends, and
tabs and line ends anywhere, count for nothing. For the schemes the standard knows, any number of
slashes leads in the host, a backslash is a slash, and the host is looked up, so it must be a domain
name or an address; a `file` URL needs no host. With any other scheme the host follows two slashes,
or there is none.
-/

namespace Readiness.Url

/-- What the standard knows about a scheme. -/
inductive SchemeKind
  | web (port : Nat)
  | file
  | other
  deriving DecidableEq, Repr

namespace SchemeKind

def of : String → SchemeKind
  | "http" | "ws" => web 80
  | "https" | "wss" => web 443
  | "ftp" => web 21
  | "file" => file
  | _ => other

def isSpecial : SchemeKind → Bool
  | other => false
  | _ => true

def isSlash (k : SchemeKind) (c : Char) : Bool := c == '/' || (c == '\\' && k.isSpecial)

end SchemeKind

/-- The characters that count. -/
def clean (s : String) : List Char :=
  let edge (c : Char) : Bool := c ≤ ' '
  let cs := ((s.toList.dropWhile edge).reverse.dropWhile edge).reverse
  cs.filter fun c => !(c == '\t' || c == '\n' || c == '\r')

def isLetter (c : Char) : Bool := ('a' ≤ c && c ≤ 'z') || ('A' ≤ c && c ≤ 'Z')

def isSchemeChar (c : Char) : Bool :=
  isLetter c || ('0' ≤ c && c ≤ '9') || c == '+' || c == '-' || c == '.'

/-- The scheme, and what follows its colon. -/
def scheme? (cs : List Char) : Option (String × List Char) :=
  match cs with
  | [] => none
  | c :: _ =>
    match cs.span isSchemeChar with
    | (name, ':' :: rest) =>
      if isLetter c then some (String.ofList (name.map Char.toLower), rest) else none
    | _ => none

/-! ## The parts behind the host -/

/-- A query and a fragment, either of which may be missing. -/
def tail (k : SchemeKind) (cs : List Char) : Option String × Option String :=
  let (front, back) := cs.span (· != '#')
  let query := match front with
    | '?' :: q =>
      some (Percent.encode (if k.isSpecial then Percent.inSpecialQuery else Percent.inQuery) q)
    | _ => none
  let fragment := match back with
    | '#' :: f => some (Percent.encode Percent.inFragment f)
    | _ => none
  (query, fragment)

/-- The path, and the query and fragment behind it. -/
def spanPath (cs : List Char) : List Char × List Char := cs.span fun c => c != '?' && c != '#'

/-- Whether a segment stands for the place it is in. -/
def isHere (s : String) : Bool := s == "." || s.toLower == "%2e"

/-- Whether a segment stands for the place above. -/
def isAbove (s : String) : Bool := ["..", "%2e.", ".%2e", "%2e%2e"].contains s.toLower

/-- A drive letter as `C:` or `C|`. -/
def isDrive (s : String) : Bool :=
  match s.toList with
  | [c, d] => isLetter c && (d == ':' || d == '|')
  | _ => false

/-- The segments without the last; a drive letter alone is kept. -/
def shorten (k : SchemeKind) (ss : List String) : List String :=
  match ss with
  | [s] => if k == .file && isDrive s then [s] else []
  | ss => ss.dropLast

/-- Segments behind those already read. A dot leaves the place as it is and two dots lead up; at the
    end of the path both leave an empty segment. -/
def walk (k : SchemeKind) (done : List String) : List String → List String
  | [] => done
  | s :: ss =>
    let done :=
      if isAbove s then shorten k done ++ (if ss.isEmpty then [""] else [])
      else if isHere s then done ++ (if ss.isEmpty then [""] else [])
      else if k == .file && done.isEmpty && isDrive s then
        [String.ofList (s.toList.take 1 ++ [':'])]
      else done ++ [s]
    walk k done ss

/-- The segments of a path that begins with a slash, or behind one that is understood. -/
def segments (k : SchemeKind) (cs : List Char) : List String :=
  let cs := match cs with
    | c :: rest => if k.isSlash c then rest else c :: rest
    | [] => []
  let pieces := splitAt '/' (cs.map fun c => if k.isSlash c then '/' else c)
  let ss := walk k [] (pieces.map (Percent.encode Percent.inPath))
  if k == .file then
    match ss.dropWhile (· == "") with
    | [] => [""]
    | ss => ss
  else ss

/-- A URL completed by its path, query and fragment. -/
def complete (u : Url) (k : SchemeKind) (cs : List Char) : Url :=
  let (path, rest) := spanPath cs
  let (query, fragment) := tail k rest
  let path := if path.isEmpty && !k.isSpecial then .segments [] else .segments (segments k path)
  { u with path, query, fragment }

/-! ## The host -/

/-- User name and password, and what follows them. They end at the last at sign before the path. -/
def userinfo (k : SchemeKind) (cs : List Char) :
    Except UrlFault ((String × String) × List Char) :=
  let (authority, _) := cs.span fun c => !(k.isSlash c || c == '/' || c == '?' || c == '#')
  if authority.contains '@' then
    let back := authority.reverse
    let host := (back.takeWhile (· != '@')).reverse
    let info := ((back.dropWhile (· != '@')).drop 1).reverse
    if info.isEmpty && host.isEmpty && (cs.drop authority.length).length != 0 then
      .error .emptyHost
    else
      let (name, password) := info.span (· != ':')
      let encode := Percent.encode Percent.inCredentials
      .ok ((encode name, encode (password.drop 1)), cs.drop (info.length + 1))
  else .ok (("", ""), cs)

/-- The characters of a host: up to a colon outside brackets or the end of the authority. -/
def spanHost (k : SchemeKind) (inBrackets : Bool) : List Char → List Char × List Char
  | [] => ([], [])
  | c :: cs =>
    if (c == ':' && !inBrackets) || k.isSlash c || c == '/' || c == '?' || c == '#' then ([], c :: cs)
    else
      let (host, rest) := spanHost k (c == '[' || (inBrackets && c != ']')) cs
      (c :: host, rest)

/-- The address in brackets. -/
def bracketed (cs : List Char) : Except UrlFault UrlHost :=
  match cs.reverse with
  | ']' :: inner => match Ipv6.parse? inner.reverse with
    | some pieces => .ok (.ipv6 pieces)
    | none => .error .invalidIpv6
  | _ => .error .invalidIpv6

/-- A host that is looked up. -/
def lookedUp (cs : List Char) : Except UrlFault UrlHost :=
  match cs with
  | '[' :: rest => bracketed rest
  | _ => match Domain.toAscii? (Percent.decode cs) with
    | none => .error .invalidDomain
    | some [] => .error .emptyHost
    | some name =>
      if Ipv4.isMeant name then
        match Ipv4.parse? name with
        | some address => .ok (.ipv4 address)
        | none => .error .invalidIpv4
      else .ok (.domain (String.ofList name))

/-- A host that is not looked up. -/
def foreign (cs : List Char) : Except UrlFault UrlHost :=
  match cs with
  | '[' :: rest => bracketed rest
  | _ =>
    if cs.any fun c => c == '\x00' || " #/:<>?@[\\]^|".toList.contains c then
      .error .invalidDomainCharacter
    else .ok (.domain (Percent.encode Percent.isControl cs))

/-- The digits of a port up to what may follow them. -/
def portDigits (value : Nat) (any : Bool) : List Char → Except UrlFault (Option Nat × List Char)
  | [] => .ok (if any then some value else none, [])
  | c :: cs =>
    if '0' ≤ c ∧ c ≤ '9' then
      let value := value * 10 + (c.toNat - '0'.toNat)
      if 65535 < value then .error .invalidPort else portDigits value true cs
    else if c == '/' || c == '\\' || c == '?' || c == '#' then
      .ok (if any then some value else none, c :: cs)
    else .error .invalidPort

/-- The port behind a host, unless it is the one the scheme implies. -/
def portOf (k : SchemeKind) (cs : List Char) : Except UrlFault (Option Nat × List Char) :=
  match cs with
  | ':' :: cs => do
    let (n, rest) ← portDigits 0 false cs
    return (if n.map SchemeKind.web == some k then none else n, rest)
  | cs => .ok (none, cs)

/-- The URL behind its slashes: credentials, host, port, and the rest. -/
def authorised (scheme : String) (k : SchemeKind) (cs : List Char) : Except UrlFault Url := do
  let ((username, password), cs) ← userinfo k cs
  let hasCredentials := !username.isEmpty || !password.isEmpty
  let (hostChars, cs) := spanHost k false cs
  if hostChars.isEmpty && (k.isSpecial || cs.head? == some ':' || hasCredentials) then
    .error .emptyHost
  else
    let host ← if k.isSpecial then lookedUp hostChars else foreign hostChars
    let (port, cs) ← portOf k cs
    return complete { scheme, username, password, host := some host, port } k cs

/-- The URL of a file: a host only behind two slashes, and none for this machine. -/
def fileUrl (cs : List Char) : Except UrlFault Url :=
  let k := SchemeKind.file
  let here : Url := { scheme := "file", host := some (.domain "") }
  match cs with
  | a :: b :: rest =>
    if k.isSlash a && k.isSlash b then
      let (hostChars, rest') := rest.span fun c => !(k.isSlash c || c == '?' || c == '#')
      if hostChars.isEmpty || isDrive (String.ofList hostChars) then .ok (complete here k rest)
      else do
        let host ← lookedUp hostChars
        let host := if host == .domain "localhost" then .domain "" else host
        return complete { here with host := some host } k rest'
    else .ok (complete here k cs)
  | cs => .ok (complete here k cs)

/-- Reads a text as a URL. -/
def parse (s : String) : Except UrlFault Url :=
  match scheme? (clean s) with
  | none => .error .relative
  | some (scheme, cs) =>
    match SchemeKind.of scheme with
    | .file => fileUrl cs
    | .web port => authorised scheme (.web port) (cs.dropWhile (SchemeKind.web port).isSlash)
    | .other => match cs with
      | '/' :: '/' :: cs => authorised scheme .other cs
      | '/' :: _ => .ok (complete { scheme } .other cs)
      | cs =>
        let (path, rest) := spanPath cs
        let (query, fragment) := tail .other rest
        .ok { scheme, path := .verbatim (Percent.encode Percent.isControl path), query, fragment }

end Readiness.Url
