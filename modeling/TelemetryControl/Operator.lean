/-
TelemetryControl.Operator — the operator's tool.

The tool asks a running agent for its status, its levels, its sampler, or
its decision for one logger, and it checks a snapshot file without asking
anybody. Where the agent is and what key it wants are options before the
command. A key that cannot stand in a header is found out before anything
is sent.
-/
import TelemetryControl.Check
import TelemetryControl.Options

namespace TelemetryControl

/-- What the operator wants. -/
inductive OperatorCommand where
  | status
  | levels
  | sampler
  | decision (logger : String)
  | check (file : String)
deriving DecidableEq, Repr

/-- A command with the options that go with it. -/
structure OperatorCall where
  url : String
  key : String
  command : OperatorCommand
deriving DecidableEq, Repr

namespace Operator

/-! ## 1. Command line -/

def options : List OptionSpec :=
  [⟨'u', "url", true⟩, ⟨'k', "key", true⟩]

def defaultUrl : String := "http://localhost:8081"

def defaultKey : String := "CHANGE_ME_IN_PRODUCTION"

/-- The names of the commands. -/
def names : List String := ["status", "levels", "sampler", "decision", "check", "help"]

/-- Help on a command, or on all of them. -/
def helpOn : List String → Usage
  | [] => .help
  | [name] => if names.contains name then .help else .mistake
  | _ => .mistake

/-- The command that words ask for. -/
def command? (name : String) (words : List String) : Except Usage OperatorCommand :=
  match name with
  | "status" => (Options.operands 0 true words).map (fun _ => .status)
  | "levels" => (Options.operands 0 true words).map (fun _ => .levels)
  | "sampler" => (Options.operands 0 true words).map (fun _ => .sampler)
  | "decision" => (Options.operands 1 true words).map (fun ws => .decision (ws.headD ""))
  | "check" => (Options.operands 1 false words).map (fun ws => .check (ws.headD ""))
  | "help" => .error (helpOn words)
  | _ => .error .mistake

/-- The call that a command line asks for. -/
def parse (args : List String) : Except Usage OperatorCall :=
  match Options.read options [] args with
  | .error u => .error u
  | .ok (_, []) => .error .mistake
  | .ok (given, name :: words) =>
    (command? name words).map (fun c =>
      ⟨Options.valueOr given 'u' defaultUrl, Options.valueOr given 'k' defaultKey, c⟩)

/-! ## 2. Requests -/

/-- The route that answers a command, if an agent is asked at all. -/
def route? : OperatorCommand → Option String
  | .status => some "/admin/status"
  | .levels => some "/admin/levels"
  | .sampler => some "/admin/sampler"
  | .decision logger => some ("/admin/decision/" ++ logger)
  | .check _ => none

/-- Whether a key can stand in a header: no control characters but tabs. -/
def isHeaderText (key : String) : Bool :=
  (Text.octets key).all (fun b => (0x20 ≤ b && b != 0x7F) || b == 0x09)

/-- What a call comes to where no request can be sent. -/
def run (d : Directory) (call : OperatorCall) : CommandResult :=
  match call.command with
  | .check file => Check.ofFile d file
  | _ => if isHeaderText call.key then .failed .unsent else .failed .badKey

end Operator

end TelemetryControl
