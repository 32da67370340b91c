/-
TelemetryControl.Sampling.Sampler — keeping a fixed share of the traces.

A ratio `r` from 0 to 1 is turned into a cut point on the signed 64-bit
numbers, `r · 2⁶³` rounded half upwards, and a trace is kept when the
magnitude of its random part is below the cut point. So the decision is a
function of the trace and the ratio, and every service that sees the same
trace at the same ratio decides alike. The ends are special: at 0 the cut
point is the least number, below which no magnitude lies, and at 1 it is the
greatest, which keeps every trace.
-/
import TelemetryControl.Sampling.TraceId

namespace TelemetryControl

/-- What becomes of a trace. -/
inductive SamplingDecision where
  | drop
  | sample
deriving DecidableEq, Repr

/-- A ratio and its cut point, published together. -/
structure Sampler where
  ratio : Binary64
  cutPoint : Int64
deriving DecidableEq, Repr, Inhabited

namespace Sampler

/-- The cut point of a ratio from 0 to 1. One half unit of the last place is
`2 ^ 1010` units of the ratio, since the ratio is scaled by `2 ^ 63`. -/
def cutPointOf (ratio : Binary64) : Int64 :=
  if ratio.units = 0 then Int64.minValue
  else if ratio.units = Binary64.unitsPerOne then Int64.maxValue
  else Int64.ofNat (Binary64.divHalfUp ratio.units (Nat.pow 2 1011))

/-- A sampler at a ratio; ratios outside 0 to 1 are refused. -/
def new (ratio : Binary64) : Except Fault Sampler :=
  if ratio.InUnitInterval then .ok ⟨ratio, cutPointOf ratio⟩
  else .error (.invalidRatio ratio)

/-- The sampler after a request for a ratio: at that ratio, or as it was with
the fault. -/
def setRatio (s : Sampler) (ratio : Binary64) : Sampler × Option Fault :=
  match new ratio with
  | .ok s' => (s', none)
  | .error f => (s, some f)

/-- Whether the trace is kept. The magnitude of the least number is that number
itself. -/
def decide (s : Sampler) (t : TraceId) : SamplingDecision :=
  if s.cutPoint = Int64.maxValue ∨ t.randomPart.abs < s.cutPoint then .sample else .drop

/-- Whether the trace is kept, as a truth value. -/
def samples (s : Sampler) (t : TraceId) : Bool :=
  s.decide t == .sample

/-- Samplers are told apart by their cut points alone. -/
def same (s t : Sampler) : Bool :=
  s.cutPoint == t.cutPoint

/-- The line that names a sampler, its ratio to six places. -/
def description (s : Sampler) : String :=
  "TraceIdRatioBased\x7b" ++ s.ratio.fixedPlaces 6 ++ "\x7d"

/-- The two fields of a sampler as a shown value. -/
def shown (s : Sampler) : String :=
  "DynamicSampler \x7b ratio: " ++ Layout.field.write s.ratio ++ ", id_upper_bound: " ++
    toString s.cutPoint.toInt ++ " \x7d"

end Sampler

end TelemetryControl
