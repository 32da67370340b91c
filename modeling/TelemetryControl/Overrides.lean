/-
TelemetryControl.Overrides — the two tables of remote overrides.

`active` holds the thresholds asked for, as asked and not as clamped;
`sampling` holds thresholds up to which a record of an unsampled trace is
held back from export. Both are published together and both are resolved by
the same walk, the most specific name first.
-/
import TelemetryControl.LoggerName
import TelemetryControl.NameTable
import TelemetryControl.Severity

namespace TelemetryControl

/-- The override tables of one snapshot. -/
structure Overrides where
  active : NameTable Severity
  sampling : NameTable Severity
deriving DecidableEq, Repr

/-- What the two tables say of one logger. -/
structure Decision where
  severity : Option Severity
  samplingSeverity : Option Severity
deriving DecidableEq, Repr

namespace Overrides

def empty : Overrides := ⟨.empty, .empty⟩

instance : Inhabited Overrides := ⟨empty⟩

/-- The override in force for a logger in one table. -/
def effective (table : NameTable Severity) (name : String) : Option Severity :=
  LoggerName.resolve table.get? name

/-- What both tables say of a logger. -/
def decision (o : Overrides) (name : String) : Decision :=
  ⟨effective o.active name, effective o.sampling name⟩

end Overrides

end TelemetryControl
