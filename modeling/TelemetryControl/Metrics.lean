/-
TelemetryControl.Metrics — what the agent counts.

Control cycles are counted by how they ended and skipped entries by their
cause; the ratio in force and the sizes of the two override tables are
gauges. Only what was measured at least once is shown.
-/
import TelemetryControl.Registry

namespace TelemetryControl

/-- One measurement. -/
inductive Measurement where
  | cycle (outcome : String)
  | skippedEntry (kind : String)
  | sampleRatio (ratio : Binary64)
  | overrides (active sampling : Nat)
deriving DecidableEq, Repr

/-- The measurements of an apply. -/
def ApplyOutcome.measurements (o : ApplyOutcome) : List Measurement :=
  o.skipped.map (fun f => .skippedEntry f.kind) ++ [.overrides o.active o.sampling]

/-- The counters and gauges. -/
structure Metrics where
  cycles : NameTable Nat
  skipped : NameTable Nat
  sampleRatio : Option Binary64
  overrides : Option (Nat × Nat)
deriving DecidableEq, Repr

namespace Metrics

/-- Nothing measured. -/
def empty : Metrics := ⟨.empty, .empty, none, none⟩

instance : Inhabited Metrics := ⟨empty⟩

/-- Counts one more under a name. -/
def count (t : NameTable Nat) (name : String) : NameTable Nat :=
  t.insert name ((t.get? name).getD 0 + 1)

def record (m : Metrics) : Measurement → Metrics
  | .cycle outcome => { m with cycles := count m.cycles outcome }
  | .skippedEntry kind => { m with skipped := count m.skipped kind }
  | .sampleRatio r => { m with sampleRatio := some r }
  | .overrides active sampling => { m with overrides := some (active, sampling) }

def recordAll (m : Metrics) (ms : List Measurement) : Metrics :=
  ms.foldl record m

/-- A labelled line. -/
def labelled (name label value : String) (n : Nat) : String :=
  name ++ "\x7b" ++ label ++ "=\"" ++ value ++ "\"\x7d " ++ toString n

/-- The lines of all metrics, in ascending order. -/
def lines (m : Metrics) : List String :=
  (match m.overrides with
    | some (active, sampling) =>
      [labelled "dial_active_overrides" "table" "active" active,
       labelled "dial_active_overrides" "table" "sampling" sampling]
    | none => []) ++
    m.cycles.toList.map (fun c => labelled "dial_cycles_total" "outcome" c.1 c.2) ++
    (match m.sampleRatio with
      | some r => ["dial_sample_ratio " ++ Layout.plain.write r]
      | none => []) ++
    m.skipped.toList.map (fun c => labelled "dial_skipped_entries_total" "reason" c.1 c.2)

end Metrics

end TelemetryControl
