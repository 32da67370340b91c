/-
TelemetryControl.Admin — the read-only API for operators.

Four routes show the loop and the sampler, the loggers and overrides, the
sampler alone, and what the overrides decide for one logger. Before all
routing stands the key: a request whose first authorization header is not
`Bearer ` and the key is refused without a look at its path, its method or
the state. A header can match only if all of it is visible ASCII, spaces
and tabs.
-/
import TelemetryControl.ControlLoop
import TelemetryControl.Text.Percent

namespace TelemetryControl.Admin

/-- A request to the API. -/
structure Request where
  method : String
  /-- The path and perhaps a query, or the locator of both. -/
  target : String
  /-- The authorization headers in order, as octets. -/
  authorization : List (List UInt8)
deriving DecidableEq, Repr

/-- An answer of the API. -/
structure Response where
  status : Nat
  /-- The view that is shown, its members in the order in which they are written. An answer
  that shows none has an empty body, except that with the status 400 the router sends a
  text of its own, which is left out here. -/
  body : Option Json

/-- What the routes show. -/
structure State where
  registry : Registry
  sampler : Sampler
  phase : LoopPhase

/-! ## 1. Authorization -/

/-- Octets that may stand in a header read as a text. -/
def isVisible (b : UInt8) : Bool :=
  (0x20 ≤ b && b ≤ 0x7E) || b == 0x09

/-- Whether the first authorization header carries the key. -/
def authorized (key : String) (headers : List (List UInt8)) : Bool :=
  match headers with
  | [] => false
  | h :: _ => h.all isVisible && h == Text.octets ("Bearer " ++ key)

/-! ## 2. Views -/

/-- The version that the status shows. -/
def version : String := "0.1.0"

def optionalSeverity (s : Option Severity) : Json :=
  (s.map (fun v => Json.str v.name)).getD .null

/-- The loop and the sampler, and how many overrides there are. -/
def statusView (s : State) : Json :=
  .record [("version", .str version), ("loopState", .str s.phase.name),
    ("sampler", .str s.sampler.description),
    ("activeOverrides", .nat s.registry.overrides.active.size),
    ("samplingOverrides", .nat s.registry.overrides.sampling.size)]

/-- The loggers and the overrides. The tables of overrides have no order of their own and
are written in that of their names. -/
def levelsView (s : State) : Json :=
  .record [("rootLevel", .str s.registry.rootLevel.name),
    ("available", Snapshot.severitiesJson s.registry.available),
    ("active", Snapshot.severitiesJson s.registry.overrides.active),
    ("sampling", Snapshot.severitiesJson s.registry.overrides.sampling)]

def samplerView (s : State) : Json :=
  .record [("ratio", .real s.sampler.ratio), ("idUpperBound", .int s.sampler.cutPoint.toInt),
    ("description", .str s.sampler.description)]

/-- What is decided for a logger, its name taken as in a configuration. -/
def decisionView (s : State) (logger : String) : Json :=
  let name := LoggerName.normalize logger
  let d := s.registry.decision name
  .record [("logger", .str name), ("known", .bool (s.registry.available.contains name)),
    ("severity", optionalSeverity d.severity),
    ("samplingSeverity", optionalSeverity d.samplingSeverity)]

/-! ## 3. Routing -/

/-- Whether a character ends the path of a target. -/
def endsPath (c : Char) : Bool :=
  c == '?' || c == '#'

/-- What follows the scheme of a target that names its host, if it does. -/
def afterScheme? (target : List Char) : Option (List Char) :=
  let scheme :=
    target.takeWhile (fun c => c.isAlphanum || c == '+' || c == '-' || c == '.')
  match target.drop scheme.length with
  | ':' :: '/' :: '/' :: rest => some rest
  | _ => none

/-- The path of a target: the target itself if it starts with a slash or is a
star, what follows the host if one is named, and nothing if there is only a
host. Neither query nor fragment belongs to it. -/
def pathChars : List Char → List Char
  | ['*'] => ['*']
  | '/' :: rest => '/' :: rest.takeWhile (fun c => !endsPath c)
  | target =>
    match afterScheme? target with
    | none => []
    | some rest =>
      let path := (rest.dropWhile (fun c => c != '/' && !endsPath c)).takeWhile (!endsPath ·)
      if path.isEmpty then ['/'] else path

/-- The path of a request. -/
def path (r : Request) : String :=
  String.ofList (pathChars r.target.toList)

/-- A route and what it takes from the path. -/
inductive Route where
  | status
  | levels
  | sampler
  /-- The path segment that names a logger, as written. -/
  | decision (segment : String)
deriving DecidableEq, Repr

/-- The route of a path. A logger is one segment and not empty. -/
def route? (path : String) : Option Route :=
  match (Text.pieces '/' path.toList).map String.ofList with
  | ["", "admin", "status"] => some .status
  | ["", "admin", "levels"] => some .levels
  | ["", "admin", "sampler"] => some .sampler
  | ["", "admin", "decision", segment] => if segment = "" then none else some (.decision segment)
  | _ => none

/-- The view of a route. A segment that spells no text is a bad request, of which only the
status is kept. -/
def view (s : State) : Route → Response
  | .status => ⟨200, some (statusView s)⟩
  | .levels => ⟨200, some (levelsView s)⟩
  | .sampler => ⟨200, some (samplerView s)⟩
  | .decision segment =>
    match Text.ofOctets? (Text.Percent.decode (Text.octets segment)) with
    | some logger => ⟨200, some (decisionView s logger)⟩
    | none => ⟨400, none⟩

/-- The answer to an authorized request. -/
def dispatch (s : State) (r : Request) : Response :=
  match route? (path r) with
  | none => ⟨404, none⟩
  | some route =>
    if r.method = "GET" then view s route
    else if r.method = "HEAD" then { view s route with body := none }
    else ⟨405, none⟩

/-- The answer to a request, and what is reported of it. -/
def handle (key : String) (s : State) (r : Request) : Response × List Notice :=
  if authorized key r.authorization then (dispatch s r, [])
  else (⟨401, none⟩, [.adminRejected (path r)])

end TelemetryControl.Admin
