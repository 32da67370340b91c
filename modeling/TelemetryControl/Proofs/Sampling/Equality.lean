/-
TelemetryControl.Proofs.Sampling.Equality — samplers that decide alike.

Samplers are told apart by their cut points alone (`same`). A cut point is not
an answer that anyone sees; what is seen of a sampler is which traces it
keeps. The two come to the same: between any two cut points that samplers can
have there is a trace that one of them keeps and the other drops
(`exists_trace_between`). For the cut point of ratio zero it is the trace of the
least number, and for any other one the trace whose random part is the cut
point itself.
-/
import TelemetryControl.Proofs.Sampling.Fraction

namespace TelemetryControl

/-- A trace with a given random part. -/
def TraceId.ofRandomPart (m : Int64) : TraceId := ⟨0#64 ++ m.toBitVec⟩

theorem TraceId.randomPart_ofRandomPart (m : Int64) : (ofRandomPart m).randomPart = m := by
  rw [← Int64.toInt_inj, ofRandomPart, randomPart_append, Int64.toInt_toBitVec]

namespace Sampler

variable {s s' : Sampler}

/-- A cut point is the least number, which is that of ratio zero, or no negative
number. -/
theorem Reached.cutPoint_eq_minValue_or (reached : Reached s) :
    s.cutPoint = Int64.minValue ∨ 0 ≤ s.cutPoint.toInt := by
  have number := toInt_cutPointOf s.ratio reached.inUnitInterval.1
  rw [← reached.cutPoint_eq] at number
  by_cases zero : s.ratio.units = 0
  · rw [if_pos zero, ← Int64.toInt_minValue] at number
    exact .inl (Int64.toInt_inj.mp number)
  · rw [if_neg zero] at number
    refine .inr ?_
    rw [number]
    split
    · decide
    · exact Int.natCast_nonneg _

/-- What lies below another cut point is not the greatest number, and so it drops
whatever is not below itself. -/
theorem decide_eq_drop_of_le {t : TraceId} (below : s.cutPoint.toInt < s'.cutPoint.toInt)
    (reaches : s.cutPoint.toInt ≤ t.randomPart.abs.toInt) : s.decide t = .drop := by
  have notGreatest : s.cutPoint ≠ Int64.maxValue := by
    intro greatest
    have bound := Int64.toInt_lt s'.cutPoint
    rw [greatest, Int64.toInt_maxValue] at below
    omega
  have notKept : s.decide t ≠ .sample := by
    rw [Ne, decide_eq_sample_iff_lt]
    exact not_or.mpr ⟨notGreatest, Int.not_lt.mpr reaches⟩
  cases decision : s.decide t with
  | drop => rfl
  | sample => exact absurd decision notKept

/-- Between two cut points there is a trace that tells them apart: its magnitude
is the lesser of them. -/
theorem exists_trace_between (reached : Reached s)
    (below : s.cutPoint.toInt < s'.cutPoint.toInt) :
    ∃ t, s.decide t = .drop ∧ s'.decide t = .sample := by
  let t := TraceId.ofRandomPart s.cutPoint
  have magnitude : t.randomPart.abs.toInt = s.cutPoint.toInt := by
    rw [TraceId.randomPart_ofRandomPart, toInt_abs]
    rcases reached.cutPoint_eq_minValue_or with least | nonneg
    · rw [least, Int64.toInt_minValue, if_pos rfl]
    · rw [if_neg (by omega), abs_of_nonneg nonneg]
  refine ⟨t, decide_eq_drop_of_le below magnitude.ge, ?_⟩
  rw [decide_eq_sample_iff_lt, magnitude]
  exact .inr below

/-- **Samplers are equal when they keep the same traces.** However two samplers
came to their ratios, they have the same cut point if and only if no trace is
kept by one of them and dropped by the other. -/
theorem same_iff_decide_eq (reached : Reached s) (reached' : Reached s') :
    s.same s' = true ↔ ∀ t : TraceId, s.decide t = s'.decide t := by
  constructor
  · intro same t
    have cuts : s.cutPoint = s'.cutPoint := beq_iff_eq.mp same
    rw [decide, decide, cuts]
  · intro alike
    rcases lt_trichotomy s.cutPoint.toInt s'.cutPoint.toInt with below | equal | above
    · obtain ⟨t, dropped, kept⟩ := exists_trace_between reached below
      rw [alike t, kept] at dropped
      cases dropped
    · exact beq_iff_eq.mpr (Int64.toInt_inj.mp equal)
    · obtain ⟨t, dropped, kept⟩ := exists_trace_between reached' above
      rw [← alike t, kept] at dropped
      cases dropped

/-- Zero, and the least ratio above it, whose cut point is zero: a single trace
in `2 ^ 64` tells them apart. The two zeros are not told apart. -/
theorem same_iff_decide_eq_around_zero :
    let zero : Sampler := ⟨⟨0⟩, Int64.minValue⟩
    let negativeZero : Sampler := ⟨⟨0x8000000000000000⟩, Int64.minValue⟩
    let least : Sampler := ⟨⟨1⟩, 0⟩
    (Reached zero ∧ Reached negativeZero ∧ Reached least) ∧
      (∀ t : TraceId, zero.decide t = negativeZero.decide t) ∧
      ¬ ∀ t : TraceId, zero.decide t = least.decide t := by
  intro zero negativeZero least
  have reached : Reached zero := reached_iff.mpr ⟨by decide +kernel, by decide +kernel⟩
  have negative : Reached negativeZero := reached_iff.mpr ⟨by decide +kernel, by decide +kernel⟩
  have above : Reached least := reached_iff.mpr ⟨by decide +kernel, by decide +kernel⟩
  refine ⟨⟨reached, negative, above⟩, (same_iff_decide_eq reached negative).mp (by decide), ?_⟩
  intro alike
  exact absurd ((same_iff_decide_eq reached above).mpr alike) (by decide)

end Sampler

end TelemetryControl
