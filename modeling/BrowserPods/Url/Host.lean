import BrowserPods.Url.Domain
import BrowserPods.Url.Ipv6
import BrowserPods.Url.Percent

/-!
Hosts of URLs: domains and addresses.  In URLs of special schemes a domain is brought into its ASCII
form, and one that ends in a number must be an address; in other URLs it is any text without
separators.
-/

namespace BrowserPods

open BrowserPods.Text

inductive UrlError where
  | relativeWithoutBase
  | emptyHost
  | invalidDomain
  | invalidDomainCharacter
  | invalidPort
  | invalidIpv4
  | invalidIpv6
deriving DecidableEq, Repr

def UrlError.message : UrlError → String
  | .relativeWithoutBase => "relative URL without a base"
  | .emptyHost => "empty host"
  | .invalidDomain => "invalid international domain name"
  | .invalidDomainCharacter => "invalid domain character"
  | .invalidPort => "invalid port number"
  | .invalidIpv4 => "invalid IPv4 address"
  | .invalidIpv6 => "invalid IPv6 address"

inductive Host where
  | domain (name : String)
  | ipv4 (address : Ipv4)
  | ipv6 (address : Ipv6)
deriving DecidableEq, Repr

namespace Host

/-- A host on its own.  This is its text in a URL only if it is no address that stands for one of
version 4. -/
def name : Host → String
  | .domain name => name
  | .ipv4 address => address.write
  | .ipv6 address => address.write

/-- A host in a URL. -/
def write : Host → String
  | .ipv6 address => "[" ++ address.writePieces ++ "]"
  | host => host.name

def readBracketed (rest : List Char) : Except UrlError Host :=
  if rest.getLast? = some ']' then
    match Ipv6.read? rest.dropLast with
    | some address => .ok (.ipv6 address)
    | none => .error .invalidIpv6
  else .error .invalidIpv6

def readSpecial : List Char → Except UrlError Host
  | '[' :: rest => readBracketed rest
  | cs =>
    match Domain.toAscii? (Percent.decode cs) with
    | none => .error .invalidDomain
    | some [] => .error .emptyHost
    | some ascii =>
      if Ipv4.endsInNumber ascii then
        match Ipv4.read? ascii with
        | some address => .ok (.ipv4 address)
        | none => .error .invalidIpv4
      else .ok (.domain (String.ofList ascii))

/-- The characters that separate the parts of a URL, which no host may hold. -/
def separators : List Char :=
  ['\x00', '\t', '\n', '\r', ' ', '#', '/', ':', '<', '>', '?', '@', '[', '\\', ']', '^', '|']

/-- Reads the host of a URL that is not special; it may be empty. -/
def readOpaque : List Char → Except UrlError (Option Host)
  | '[' :: rest => (readBracketed rest).map some
  | cs =>
    if cs.any separators.contains then .error .invalidDomainCharacter
    else if cs.isEmpty then .ok none
    else .ok (some (.domain (String.ofList (Percent.encode Percent.controls cs))))

end Host

end BrowserPods
