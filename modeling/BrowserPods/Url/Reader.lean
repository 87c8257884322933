import BrowserPods.Url.Basic

/-!
Reading URLs as browsers do.  Control characters and spaces around the text and line breaks within
it count for nothing; the scheme decides how the rest is read.
-/

namespace BrowserPods.Url

open BrowserPods.Text

/-! ## Schemes -/

def isLetter (c : Char) : Bool := ('a' ≤ c && c ≤ 'z') || ('A' ≤ c && c ≤ 'Z')

def lower (c : Char) : Char := if 'A' ≤ c ∧ c ≤ 'Z' then Char.ofNat (c.toNat + 32) else c

def isSchemeChar (c : Char) : Bool :=
  isLetter c || ('0' ≤ c && c ≤ '9') || c == '+' || c == '-' || c == '.'

def splitScheme? (cs : List Char) : Option (String × List Char) :=
  if cs.head?.any isLetter then
    match cs.dropWhile isSchemeChar with
    | ':' :: rest => some (String.ofList ((cs.takeWhile isSchemeChar).map lower), rest)
    | _ => none
  else none

inductive SchemeKind where
  /-- A scheme whose URLs always have a host. -/
  | special
  | file
  | other
deriving DecidableEq, Repr

def schemeKind (scheme : String) : SchemeKind :=
  if ["http", "https", "ws", "wss", "ftp"].contains scheme then .special
  else if scheme = "file" then .file
  else .other

def defaultPort? (scheme : String) : Option Nat :=
  if scheme = "http" ∨ scheme = "ws" then some 80
  else if scheme = "https" ∨ scheme = "wss" then some 443
  else if scheme = "ftp" then some 21
  else none

/-- Whether a backslash counts as a slash. -/
def SchemeKind.foldsBackslash (kind : SchemeKind) : Bool := kind != .other

def isSlash (kind : SchemeKind) (c : Char) : Bool := c == '/' || (kind.foldsBackslash && c == '\\')

def endsAuthority (kind : SchemeKind) (c : Char) : Bool := isSlash kind c || c == '?' || c == '#'

/-! ## Authorities -/

/-- The name and password of a user with the separator behind them; nothing if both are empty. -/
def writeUserInfo (cs : List Char) : String :=
  let name := Percent.encode Percent.userInfo (cs.takeWhile (· ≠ ':'))
  let password := Percent.encode Percent.userInfo ((cs.dropWhile (· ≠ ':')).drop 1)
  if name.isEmpty && password.isEmpty then ""
  else
    String.ofList (name ++ (if password.isEmpty then [] else ':' :: password) ++ ['@'])

/-- What is before and what is behind the last at sign. -/
def splitUser? (cs : List Char) : Option (List Char × List Char) :=
  let reversed := cs.reverse
  match reversed.dropWhile (· ≠ '@') with
  | [] => none
  | _ :: user => some (user.reverse, (reversed.takeWhile (· ≠ '@')).reverse)

/-- The host, up to the first colon outside brackets, and the rest. -/
def splitHost (inside : Bool) : List Char → List Char × List Char
  | [] => ([], [])
  | c :: rest =>
    if c = ':' ∧ !inside then ([], c :: rest)
    else
      let next := if c = '[' then true else if c = ']' then false else inside
      let (host, behind) := splitHost next rest
      (c :: host, behind)

def portDigits? (digits : List Char) : Except UrlError (Option Nat) :=
  match Numeral.ofDigits? 10 digits with
  | none => .ok none
  | some port => if port ≤ Numeral.max16 then .ok (some port) else .error .invalidPort

def readPort (scheme : String) (cs : List Char) : Except UrlError (Option Nat × List Char) :=
  let isDigit (c : Char) : Bool := '0' ≤ c && c ≤ '9'
  match portDigits? (cs.takeWhile isDigit) with
  | .error error => .error error
  | .ok port =>
    let rest := cs.dropWhile isDigit
    if rest.isEmpty || rest.head? = some '\\' then
      .ok (if port = defaultPort? scheme then none else port, rest)
    else .error .invalidPort

/-- Reads a host of a scheme that is not for files. -/
def readHost (kind : SchemeKind) (cs : List Char) : Except UrlError (Option Host) :=
  if kind = .other then Host.readOpaque cs
  else if cs.isEmpty then .error .emptyHost
  else (Host.readSpecial cs).map some

/-- Reads the host and the port of an authority, with what is left of it. -/
def readHostAndPort (scheme : String) (cs : List Char) :
    Except UrlError (Option Host × Option Nat × List Char) := do
  let (hostText, behind) := splitHost false cs
  let host ← readHost (schemeKind scheme) hostText
  match behind with
  | [] => pure (host, none, [])
  | _ :: digits =>
    if host.isNone then .error .emptyHost
    else
      let (port, rest) ← readPort scheme digits
      pure (host, port, rest)

/-- Reads what follows two slashes, with what follows the authority. -/
def readAuthority (scheme : String) (cs : List Char) : Except UrlError (Authority × List Char) := do
  let kind := schemeKind scheme
  let inside := cs.takeWhile fun c => !endsAuthority kind c
  let behind := cs.dropWhile fun c => !endsAuthority kind c
  let (user, place) := (splitUser? inside).getD ([], inside)
  if (splitUser? inside).isSome && user.isEmpty && place.isEmpty && !behind.isEmpty then
    .error .emptyHost
  else
    let userInfo := writeUserInfo user
    let (host, port, rest) ← readHostAndPort scheme place
    if host.isNone && userInfo ≠ "" then .error .emptyHost
    else pure ({ userInfo, host, port }, rest ++ behind)

/-! ## Paths -/

def isHere (segment : List Char) : Bool :=
  String.ofList (segment.map lower) ∈ [".", "%2e"]

def isUp (segment : List Char) : Bool :=
  String.ofList (segment.map lower) ∈ ["..", ".%2e", "%2e.", "%2e%2e"]

def isDrive : List Char → Bool
  | [c, mark] => isLetter c && (mark == ':' || mark == '|')
  | _ => false

/-- The segments without the last one; the drive of a file stays. -/
def shorten (kind : SchemeKind) (segments : List (List Char)) : List (List Char) :=
  if kind = .file && segments.getLast?.any isDrive then segments else segments.dropLast

/-- A segment as it is kept; the drive of a file gets its colon. -/
def keep (kind : SchemeKind) (first : Bool) (segment : List Char) : List Char :=
  if kind = .file && first && isDrive segment then segment.take 1 ++ [':'] else segment

/-- The segments that remain of some segments after `done`. -/
def resolve (kind : SchemeKind) (done : List (List Char)) : List (List Char) → List (List Char)
  | [] => done
  | segment :: rest =>
    let ended := rest.isEmpty
    let next :=
      if isUp segment then shorten kind done ++ (if ended then [[]] else [])
      else if isHere segment then done ++ (if ended then [[]] else [])
      else done ++ [keep kind done.isEmpty segment]
    resolve kind next rest

/-- The pieces of a list between the characters that a test accepts. -/
def splitAtAll (separates : Char → Bool) (piece : List Char) : List Char → List (List Char)
  | [] => [piece.reverse]
  | c :: rest =>
    if separates c then piece.reverse :: splitAtAll separates [] rest
    else splitAtAll separates (c :: piece) rest

def segments (kind : SchemeKind) (cs : List Char) : List (List Char) :=
  resolve kind []
    ((splitAtAll (isSlash kind) [] cs).map (Percent.encode Percent.path))

def writeSegments (segments : List (List Char)) : String :=
  String.ofList (segments.flatMap fun segment => '/' :: segment)

def dropSlash (kind : SchemeKind) : List Char → List Char
  | [] => []
  | c :: rest => if isSlash kind c then rest else c :: rest

def readPath (kind : SchemeKind) (cs : List Char) : String :=
  if kind = .other && cs.isEmpty then ""
  else writeSegments (segments kind (dropSlash kind cs))

/-- The segments of the path of a file, which does not begin with empty ones. -/
def fileSegments (cs : List Char) : List (List Char) :=
  let found := (segments .file (dropSlash .file cs)).dropWhile List.isEmpty
  if found.isEmpty then [[]] else found

/-! ## Whole URLs -/

/-- What is before the query and the fragment, the query and the fragment. -/
def splitTail (kind : SchemeKind) (cs : List Char) :
    List Char × Option String × Option String :=
  let whole := cs.takeWhile (· ≠ '#')
  let fragment := match cs.dropWhile (· ≠ '#') with
    | [] => none
    | _ :: text => some (String.ofList (Percent.encode Percent.fragment text))
  let set := if kind = .other then Percent.query else Percent.specialQuery
  let query := match whole.dropWhile (· ≠ '?') with
    | [] => none
    | _ :: text => some (String.ofList (Percent.encode set text))
  (whole.takeWhile (· ≠ '?'), query, fragment)

/-- Reads a URL with two slashes after its scheme. -/
def readWithAuthority (scheme : String) (cs : List Char) : Except UrlError Url := do
  let (authority, rest) ← readAuthority scheme cs
  let kind := schemeKind scheme
  let (path, query, fragment) := splitTail kind rest
  pure { scheme, authority := some authority, path := readPath kind path, query, fragment }

/-- Reads a URL that need not have a host. -/
def readOther (scheme : String) (cs : List Char) : Except UrlError Url :=
  match cs with
  | '/' :: '/' :: rest => readWithAuthority scheme rest
  | _ =>
    let (whole, query, fragment) := splitTail .other cs
    let path := match whole with
      | '/' :: rest => writeSegments (segments .other rest)
      | _ => String.ofList (Percent.encode Percent.controls whole)
    .ok { scheme, path, query, fragment }

/-- Reads the host of a file; our own machine is none. -/
def readFileHost (cs : List Char) : Except UrlError (Option Host) :=
  if cs.isEmpty then .ok none
  else
    (Host.readSpecial cs).map fun host =>
      if host = .domain "localhost" then none else some host

def readFile (cs : List Char) : Except UrlError Url := do
  let (whole, query, fragment) := splitTail .file cs
  let done (host : Option Host) (path : List (List Char)) : Url :=
    { scheme := "file", authority := some { host }, path := writeSegments path, query, fragment }
  match whole with
  | a :: b :: rest =>
    if isSlash .file a && isSlash .file b then
      let name := rest.takeWhile fun c => !isSlash .file c
      if isDrive name then pure (done none (fileSegments rest))
      else
        let host ← readFileHost name
        let path := fileSegments (rest.dropWhile fun c => !isSlash .file c)
        pure (done (if path.head?.any isDrive then none else host) path)
    else pure (done none (fileSegments whole))
  | _ => pure (done none (fileSegments whole))

/-- Whether a character around a URL counts for nothing. -/
def isPadding (c : Char) : Bool := c.toNat ≤ 0x20

/-- Whether a character within a URL counts for nothing. -/
def isBreak (c : Char) : Bool := c == '\t' || c == '\n' || c == '\r'

/-- The characters of a text that count. -/
def relevant (cs : List Char) : List Char :=
  let inner := cs.dropWhile isPadding
  ((inner.reverse.dropWhile isPadding).reverse).filter fun c => !isBreak c

def read (text : String) : Except UrlError Url :=
  match splitScheme? (relevant text.toList) with
  | none => .error .relativeWithoutBase
  | some (scheme, rest) =>
    match schemeKind scheme with
    | .file => readFile rest
    | .other => readOther scheme rest
    | .special => readWithAuthority scheme (rest.dropWhile (isSlash .special))

end BrowserPods.Url
