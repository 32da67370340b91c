/-
TelemetryControl.Main — the operator's tool on the command line.

A thin layer: it reads the one file that a check needs, runs the call, and
prints what comes of it. It has no network, so a command that would ask an
agent ends as one whose request could not be sent.
-/
import TelemetryControl.Operator

namespace TelemetryControl.Main

/-- How the tool is used. -/
def usageText : String :=
  "Inspect a running agent\n\n" ++
    "Usage: [OPTIONS] <COMMAND>\n\n" ++
    "Commands:\n" ++
    "  status             Control loop state and override counts\n" ++
    "  levels             Available loggers and active override tables\n" ++
    "  sampler            Current sampling ratio\n" ++
    "  decision <LOGGER>  Resolved override pair for one logger\n" ++
    "  check <FILE>       Validate a snapshot file without contacting an agent\n" ++
    "  help               Print this message\n\n" ++
    "Options:\n" ++
    "  -u, --url <URL>    [default: " ++ Operator.defaultUrl ++ "]\n" ++
    "  -k, --key <KEY>    [default: " ++ Operator.defaultKey ++ "]\n" ++
    "  -h, --help         Print help\n"

/-- The fault of a read that failed. -/
def readFault : IO.Error → FileFault
  | .noFileOrDirectory _ _ _ => .notFound
  | .inappropriateType _ _ _ => .isDirectory
  | _ => .notFound

/-- Runs a call; only a check needs a file. -/
def run (call : OperatorCall) : IO CommandResult := do
  match call.command with
  | .check file =>
    try
      let content ← IO.FS.readBinFile file
      return Check.ofContent file content.toList
    catch e => return .failed (.unreadable (readFault e))
  | _ => return Operator.run .empty call

end TelemetryControl.Main

/-- The operator's tool. -/
def main (args : List String) : IO UInt32 := do
  match TelemetryControl.Operator.parse args with
  | .error u =>
    if u.exit = 0 then IO.print TelemetryControl.Main.usageText
    else IO.eprint TelemetryControl.Main.usageText
    return u.exit.toUInt32
  | .ok call =>
    let r ← TelemetryControl.Main.run call
    for l in r.output do IO.println l
    for l in r.reports do IO.eprintln l
    match r.fault with
    | some f => IO.eprintln ("Error: " ++ f.shown)
    | none => pure ()
    return r.exit.toUInt32
