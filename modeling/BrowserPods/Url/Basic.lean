import BrowserPods.Url.Host

/-!
URLs and how they are written.
-/

namespace BrowserPods

open BrowserPods.Text

/-- Who and where: the part of a URL after two slashes. -/
structure Authority where
  /-- The encoded name and password with the separator, as they are written. -/
  userInfo : String := ""
  host : Option Host := none
  /-- The port, unless it is the usual one of the scheme. -/
  port : Option Nat := none
deriving DecidableEq, Repr

/-- A URL.  All parts are encoded. -/
structure Url where
  scheme : String
  authority : Option Authority := none
  path : String := ""
  query : Option String := none
  fragment : Option String := none
deriving DecidableEq, Repr

namespace Url

def host? (url : Url) : Option Host := url.authority.bind (·.host)

def writePort : Option Nat → String
  | none => ""
  | some port => ":" ++ String.ofList (Nat.toDigits 10 port)

/-- The part between the scheme and the path.  Without an authority the path must not look as if
there were one. -/
def writeAuthority (url : Url) : String :=
  match url.authority with
  | some authority =>
    "//" ++ authority.userInfo ++ (authority.host.map Host.write).getD ""
      ++ writePort authority.port
  | none => if "//".toList.isPrefixOf url.path.toList then "/." else ""

def writePart (mark : String) : Option String → String
  | none => ""
  | some text => mark ++ text

def write (url : Url) : String :=
  url.scheme ++ ":" ++ url.writeAuthority ++ url.path ++ writePart "?" url.query
    ++ writePart "#" url.fragment

end Url

end BrowserPods
