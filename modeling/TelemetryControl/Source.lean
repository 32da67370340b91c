/-
TelemetryControl.Source — where snapshots are fetched from.

An endpoint answers with one snapshot per service, in JSON. A file holds
one snapshot, in the format of its name, and is read whole for every cycle.
Whatever goes wrong in fetching is a fault of transport. Requests are sent
by the program around the library; here stands what a source is, and what
a request that could not be sent comes to.
-/
import TelemetryControl.Config
import TelemetryControl.Directory
import TelemetryControl.Fault
import TelemetryControl.Snapshot.Format
import TelemetryControl.Url

namespace TelemetryControl

/-- A source of snapshots. -/
inductive Source where
  | endpoint (url : Url)
  | file (path : String)
deriving DecidableEq, Repr

namespace Source

/-- The source at an endpoint, if its text is a locator. -/
def ofEndpoint (text : String) : Except Fault Source :=
  match Url.parse text with
  | .ok u => .ok (.endpoint u)
  | .error f => .error (.transport ("invalid endpoint " ++ text ++ ": " ++ f.message))

/-- The source that a configuration chooses. -/
def ofConfig (c : ControlConfig) : Except Fault Source :=
  match c.source, c.path with
  | .http, _ => ofEndpoint c.endpoint
  | .file, some path => .ok (.file path)
  | .file, none => .error (.transport "file source has no path")

/-- What a source is called. -/
def description : Source → String
  | endpoint u => u.text
  | file path => path

def format : Source → PayloadFormat
  | endpoint _ => .json
  | file path => .ofPath path

def layout : Source → PayloadLayout
  | endpoint _ => .perService
  | file _ => .single

/-- The content of a file that snapshots come from. -/
def readFile (d : Directory) (path : String) : Except Fault (List UInt8) :=
  match d.read path with
  | .ok content => .ok content
  | .error f => .error (.transport (path ++ ": " ++ f.message))

/-! ## 1. Requests that are not sent -/

/-- Characters of a host that a request cannot name. -/
def isUnsendable (c : Char) : Bool :=
  "\"\x60\x7b\x7d".toList.contains c

/-- Whether a request to a locator can be made at all. -/
def canRequest (u : Url) : Bool :=
  u.isWeb && u.authority.any (fun a => !a.host.isEmpty && !a.host.any isUnsendable)

/-- A locator as faults name it: without credentials that a request would carry
in its header. A user name that is no text stays where it is. -/
def asNamed (u : Url) : Url :=
  match u.authority with
  | none => u
  | some a =>
    let decoded (cs : List Char) : Option String :=
      Text.ofOctets? (Text.Percent.decode (Text.octets (String.ofList cs)))
    match decoded a.username with
    | none => u
    | some name =>
      if name.isEmpty && (a.password.isEmpty || (decoded a.password).isNone) then u
      else u.withoutCredentials

/-- The fault of a request that was not sent. -/
def unsent (u : Url) : Fault :=
  .transport ((if canRequest u then "error sending request" else "builder error") ++
    " for url (" ++ (asNamed u).text ++ ")")

/-- What a fetch gives where no request can be sent. -/
def fetch (d : Directory) : Source → Except Fault (List UInt8)
  | endpoint u => .error (unsent u)
  | file path => readFile d path

end Source

end TelemetryControl
