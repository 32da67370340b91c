/-
TelemetryControl.Url — locators of control endpoints.

A locator is read as browsers read it: white space around it and line
breaks in it do not count, a known scheme does not care how many slashes
follow it or which way they lean, dots among the path segments are worked
out, and what may not stand in a part is escaped. The written form says the
same again with nothing left to work out.
-/
import TelemetryControl.Url.Host

namespace TelemetryControl

/-- Who answers under a locator: credentials, a host and a port. -/
structure Authority where
  username : List Char
  password : List Char
  /-- The host in its written form, empty for none. -/
  host : List Char
  /-- A port other than the scheme's own. -/
  port : Option Nat
deriving DecidableEq, Repr

/-- The path of a locator. -/
inductive UrlPath where
  /-- Segments, each after a slash. -/
  | segments (l : List (List Char))
  /-- A text without structure. -/
  | flat (text : List Char)
deriving DecidableEq, Repr

/-- A locator. -/
structure Url where
  scheme : String
  authority : Option Authority
  path : UrlPath
  query : Option (List Char)
  fragment : Option (List Char)
deriving DecidableEq, Repr

namespace Url

/-! ## 1. Schemes -/

/-- Schemes whose locators have a host, with the port that they imply. -/
def knownPorts : List (String × Nat) :=
  [("http", 80), ("https", 443), ("ws", 80), ("wss", 443), ("ftp", 21)]

/-- Whether a scheme is one of the web's. -/
def isKnown (scheme : String) : Bool :=
  scheme == "file" || knownPorts.any (·.1 == scheme)

/-- A text without what does not count: space and controls at its ends, tabs and
line breaks anywhere. -/
def cleaned (text : String) : List Char :=
  let padding (c : Char) : Bool := c.toNat ≤ 0x20
  ((text.toList.dropWhile padding).reverse.dropWhile padding).reverse.filter
    (fun c => c != '\t' && c != '\n' && c != '\r')

/-- The scheme of a text, in lower case, and what follows its colon. -/
def cutScheme (cs : List Char) : Option (String × List Char) :=
  let scheme := cs.takeWhile (fun c => c.isAlphanum || c == '+' || c == '-' || c == '.')
  match cs.drop scheme.length with
  | ':' :: rest =>
    if scheme.head?.any Char.isAlpha then some (Text.lower (String.ofList scheme), rest) else none
  | _ => none

/-- Whether a character is a slash under a scheme; under a known one a slash may
lean either way. -/
def isSlash (known : Bool) (c : Char) : Bool :=
  c == '/' || (known && c == '\\')

/-- Whether a character ends an authority. -/
def endsAuthority (known : Bool) (c : Char) : Bool :=
  isSlash known c || c == '?' || c == '#'

/-! ## 2. What is escaped -/

def escapedInFragment (c : Char) : Bool :=
  isControl c || " \"<>\x60".toList.contains c

def escapedInPath (c : Char) : Bool :=
  escapedInFragment c || "#?\x7b\x7d".toList.contains c

def escapedInCredentials (c : Char) : Bool :=
  escapedInPath c || "/:;=@[\\]^|".toList.contains c

def escapedInQuery (known : Bool) (c : Char) : Bool :=
  isControl c || " \"#<>".toList.contains c || (known && c == '\'')

/-! ## 3. Authority -/

/-- Credentials before the last `@` of an authority, and what follows it. -/
def cutCredentials (known : Bool) (cs : List Char) : Option (List Char × List Char) :=
  let whole := cs.takeWhile (fun c => !endsAuthority known c)
  if whole.contains '@' then
    let after := (whole.reverse.takeWhile (· != '@')).reverse
    some (whole.take (whole.length - after.length - 1), cs.drop (whole.length - after.length))
  else none

/-- The host of an authority and what follows it. Colons between brackets belong
to the host. -/
def cutHost (known : Bool) (inside : Bool) : List Char → List Char × List Char
  | [] => ([], [])
  | c :: rest =>
    if (c == ':' && !inside) || endsAuthority known c then ([], c :: rest)
    else
      let inside := if c == '[' then true else if c == ']' then false else inside
      let p := cutHost known inside rest
      (c :: p.1, p.2)

/-- The port that follows a host, and what follows it. -/
def cutPort (scheme : String) (cs : List Char) : Except UrlFault (Option Nat × List Char) :=
  let ds := cs.takeWhile Char.isDigit
  let rest := cs.drop ds.length
  let port := ds.foldl (fun n c => 10 * n + (c.toNat - 0x30)) 0
  if 65535 < port || !(rest.head?.all (endsAuthority true)) then .error .badPort
  else if ds.isEmpty || knownPorts.lookup scheme = some port then .ok (none, rest)
  else .ok (some port, rest)

/-- A host with its port, and what follows. -/
def readHost (scheme : String) (known : Bool) (cs : List Char) :
    Except UrlFault (List Char × Option Nat × List Char) := do
  let (text, rest) := cutHost known false cs
  if known && text.isEmpty then throw .emptyHost
  let host ← if known then knownHost? text else otherHost? text
  match rest with
  | ':' :: more =>
    if host.isEmpty then throw .emptyHost
    let (port, rest) ← cutPort scheme more
    return (host, port, rest)
  | rest => return (host, none, rest)

/-- An authority, and what follows it. -/
def readAuthority (scheme : String) (known : Bool) (cs : List Char) :
    Except UrlFault (Authority × List Char) := do
  match cutCredentials known cs with
  | none =>
    let (host, port, rest) ← readHost scheme known cs
    return (⟨[], [], host, port⟩, rest)
  | some (credentials, after) =>
    if credentials.isEmpty && after.head?.any (endsAuthority known) then throw .emptyHost
    let name := credentials.takeWhile (· != ':')
    let word := credentials.drop (name.length + 1)
    let (host, port, rest) ← readHost scheme known after
    if host.isEmpty && !(name.isEmpty && word.isEmpty) then throw .emptyHost
    return (⟨Text.Percent.encode escapedInCredentials name,
      Text.Percent.encode escapedInCredentials word, host, port⟩, rest)

/-! ## 4. Path -/

/-- A segment that stands for its own place. -/
def isSingleDot (s : List Char) : Bool :=
  Text.lower (String.ofList s) == "." || Text.lower (String.ofList s) == "%2e"

/-- A segment that stands for the place above. -/
def isDoubleDot (s : List Char) : Bool :=
  ["..", ".%2e", "%2e.", "%2e%2e"].contains (Text.lower (String.ofList s))

/-- Whether a segment starts as one for a drive does: a letter, a colon or a bar,
and nothing more before the next slash. -/
def isDrive : List Char → Bool
  | [c, d] => c.isAlpha && (d == ':' || d == '|')
  | c :: d :: '\\' :: _ => c.isAlpha && (d == ':' || d == '|')
  | _ => false

/-- Segments after one step upwards. A drive is not left. -/
def stepUp (done : List (List Char)) : List (List Char) :=
  if done.getLast?.any isDrive then done else done.dropLast

/-- Segments with one more. A file's first segment, if it is just a drive, is
written with a colon. -/
def stepDown (ofFile : Bool) (done : List (List Char)) (s : List Char) : List (List Char) :=
  match ofFile, done, s with
  | true, [], [c, d] => [if isDrive [c, d] then [c, ':'] else [c, d]]
  | _, _, _ => done ++ [s]

/-- Segments with their dots worked out; a dot at the end leaves a slash. -/
def resolveDots (ofFile : Bool) (done : List (List Char)) :
    List (List Char) → List (List Char)
  | [] => done
  | s :: rest =>
    let atEnd := if rest.isEmpty then [[]] else []
    if isDoubleDot s then resolveDots ofFile (stepUp done ++ atEnd) rest
    else if isSingleDot s then resolveDots ofFile (done ++ atEnd) rest
    else resolveDots ofFile (stepDown ofFile done s) rest

/-- A text without the slash in front. -/
def afterSlash (known : Bool) (cs : List Char) : List Char :=
  if cs.head?.any (isSlash known) then cs.drop 1 else cs

/-- The segments of a path text, the slash before the first left out. -/
def readSegments (known ofFile : Bool) (cs : List Char) : List (List Char) :=
  let marked := cs.map (fun c => if isSlash known c then '/' else c)
  resolveDots ofFile [] ((Text.pieces '/' marked).map (Text.Percent.encode escapedInPath))

/-- The query and the fragment that follow a path. -/
def readEnd (known : Bool) (cs : List Char) : Option (List Char) × Option (List Char) :=
  let fragment (cs : List Char) : Option (List Char) :=
    match cs with
    | '#' :: rest => some (Text.Percent.encode escapedInFragment rest)
    | _ => none
  match cs with
  | '?' :: rest =>
    let query := rest.takeWhile (· != '#')
    (some (Text.Percent.encode (escapedInQuery known) query), fragment (rest.drop query.length))
  | cs => (none, fragment cs)

/-- A text cut where its query or fragment starts. -/
def cutPath (cs : List Char) : List Char × List Char :=
  let path := cs.takeWhile (fun c => c != '?' && c != '#')
  (path, cs.drop path.length)

/-! ## 5. Reading -/

/-- A locator with a host: its path, query and fragment read. -/
def withHost (scheme : String) (known : Bool) (a : Authority) (rest : List Char) : Url :=
  let (path, after) := cutPath rest
  let (query, fragment) := readEnd known after
  let segments :=
    if path.isEmpty && !known then [] else readSegments known false (afterSlash known path)
  ⟨scheme, some a, .segments segments, query, fragment⟩

/-- A locator of a file on a host. A path on a drive has no host, and empty
segments in front of a path do not count. -/
def ofFile (host rest : List Char) : Url :=
  let (path, after) := cutPath rest
  let (query, fragment) := readEnd true after
  let segments := readSegments true true path
  let onDrive := segments.head?.any isDrive
  let kept := segments.dropWhile List.isEmpty
  ⟨"file", some ⟨[], [], if onDrive then [] else host, none⟩,
    .segments (if kept.isEmpty then [[]] else kept), query, fragment⟩

/-- A locator of a file. After two slashes comes a host, which may be missing; the
local host counts as none, and a drive in its place belongs to the path. -/
def readFile (cs : List Char) : Except UrlFault Url :=
  match cs with
  | a :: b :: rest =>
    if isSlash true a && isSlash true b then
      let text := rest.takeWhile (fun c => !endsAuthority true c)
      let after := rest.drop text.length
      if isDrive text then .ok (ofFile [] rest)
      else if text.isEmpty then .ok (ofFile [] after)
      else
        (knownHost? text).map (fun host =>
          if host = "localhost".toList then ofFile [] after
          else ofFile host (afterSlash true after))
    else .ok (ofFile [] (afterSlash true cs))
  | _ => .ok (ofFile [] (afterSlash true cs))

/-- The locator of a text. -/
def parse (text : String) : Except UrlFault Url :=
  match cutScheme (cleaned text) with
  | none => .error .noScheme
  | some ("file", rest) => readFile rest
  | some (scheme, rest) =>
    if isKnown scheme then
      (readAuthority scheme true (rest.dropWhile (isSlash true))).map
        (fun p => withHost scheme true p.1 p.2)
    else
      match rest with
      | '/' :: '/' :: more =>
        (readAuthority scheme false more).map (fun p => withHost scheme false p.1 p.2)
      | _ =>
        let (path, after) := cutPath rest
        let (query, fragment) := readEnd false after
        .ok ⟨scheme, none,
          if path.head? = some '/' then .segments (readSegments false false (afterSlash false path))
          else .flat (Text.Percent.encode isControl path), query, fragment⟩

/-! ## 6. Writing -/

/-- The characters of an authority. -/
def authorityChars (a : Authority) : List Char :=
  (if a.username.isEmpty && a.password.isEmpty then []
    else a.username ++ (if a.password.isEmpty then [] else ':' :: a.password) ++ ['@']) ++
    a.host ++
    (match a.port with
      | some p => ':' :: Nat.toDigits 10 p
      | none => [])

/-- The characters of a path. A path that would be taken for a host gets a dot
in front. -/
def pathChars (hosted : Bool) : UrlPath → List Char
  | .flat text => text
  | .segments l =>
    let text := l.flatMap ('/' :: ·)
    if !hosted && ['/', '/'].isPrefixOf text then ['/', '.'] ++ text else text

/-- The written form of a locator. -/
def text (u : Url) : String :=
  String.ofList (u.scheme.toList ++ [':'] ++
    (match u.authority with
      | some a => ['/', '/'] ++ authorityChars a
      | none => []) ++
    pathChars u.authority.isSome u.path ++
    (match u.query with
      | some q => '?' :: q
      | none => []) ++
    (match u.fragment with
      | some f => '#' :: f
      | none => []))

/-- The locator without its credentials. -/
def withoutCredentials (u : Url) : Url :=
  { u with authority := u.authority.map (fun a => { a with username := [], password := [] }) }

/-- Whether requests can go to a locator. -/
def isWeb (u : Url) : Bool :=
  u.scheme == "http" || u.scheme == "https"

end Url

end TelemetryControl
