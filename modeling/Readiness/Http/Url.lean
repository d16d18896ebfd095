import Readiness.Http.Url.Address

/-!
# URLs

A URL in the normal form of the URL Standard: scheme, credentials, host, port, path, query and
fragment, each already encoded as it is written. `Url.text` writes it.
-/

namespace Readiness

/-- Why a text is no URL. -/
inductive UrlFault
  /-- It has no scheme, so it would have to be read relative to another URL. -/
  | relative
  | emptyHost
  /-- The host is no domain name that can be looked up. -/
  | invalidDomain
  | invalidPort
  | invalidIpv4
  | invalidIpv6
  /-- A character that no host may have, in a host that is not looked up. -/
  | invalidDomainCharacter
  deriving DecidableEq, Repr

def UrlFault.text : UrlFault → String
  | relative => "relative URL without a base"
  | emptyHost => "empty host"
  | invalidDomain => "invalid international domain name"
  | invalidPort => "invalid port number"
  | invalidIpv4 => "invalid IPv4 address"
  | invalidIpv6 => "invalid IPv6 address"
  | invalidDomainCharacter => "invalid domain character"

inductive UrlHost
  | domain (name : String)
  | ipv4 (address : Nat)
  | ipv6 (pieces : List Nat)
  deriving DecidableEq, Repr

def UrlHost.text : UrlHost → String
  | domain name => name
  | ipv4 address => Ipv4.text address
  | ipv6 pieces => "[" ++ Ipv6.text pieces ++ "]"

inductive UrlPath
  /-- The path of a URL such as `mailto:`, which has no parts. -/
  | verbatim (text : String)
  | segments (segments : List String)
  deriving DecidableEq, Repr

def UrlPath.text : UrlPath → String
  | verbatim text => text
  | segments ss => String.join (ss.map ("/" ++ ·))

structure Url where
  scheme : String
  username : String := ""
  password : String := ""
  host : Option UrlHost := none
  port : Option Nat := none
  path : UrlPath := .segments []
  query : Option String := none
  fragment : Option String := none
  deriving DecidableEq, Repr

namespace Url

/-- User name and password as they are written before the host. -/
def credentials (u : Url) : String :=
  let password := if u.password.isEmpty then "" else ":" ++ u.password
  if u.username.isEmpty && u.password.isEmpty then "" else u.username ++ password ++ "@"

/-- What stands between the scheme and the path. A path that begins with an empty segment would read
    as a host where there is none, and is kept apart by a dot. -/
def authority (u : Url) : String :=
  match u.host with
  | some host =>
    let port := match u.port with
      | some n => ":" ++ toString n
      | none => ""
    "//" ++ u.credentials ++ host.text ++ port
  | none => match u.path with
    | .segments ("" :: _ :: _) => "/."
    | _ => ""

/-- The URL as it is written. -/
def text (u : Url) : String :=
  let query := match u.query with
    | some q => "?" ++ q
    | none => ""
  let fragment := match u.fragment with
    | some f => "#" ++ f
    | none => ""
  u.scheme ++ ":" ++ u.authority ++ u.path.text ++ query ++ fragment

end Url

end Readiness
