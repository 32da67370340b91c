/-
TelemetryControl.Proofs.Sampling.Threshold — which traces a sampler keeps.

A sampler compares the magnitude of a trace with its cut point. Both are
machine numbers, and the proofs here go through the integers they stand for:
the cut point is the scaled ratio rounded, with a number of its own at each
end of the range (`toInt_cutPointOf`), and the magnitude is the absolute
value, except that the least random part is its own magnitude (`toInt_abs`).

* Between 0 and 1 the cut point is a threshold on the absolute value, and the
  least random part passes it always (`decide_eq_sample_iff`).
* A greater ratio keeps every trace that a smaller one keeps (`decide_mono`).
-/
import TelemetryControl.Proofs.Number.Value
import TelemetryControl.Sampling.Sampler

namespace TelemetryControl

open Binary64 (unitsPerOne unitsPerStep divHalfUp)

/-- The random part is the identifier's value modulo `2 ^ 64`, with a sign. -/
theorem TraceId.toInt_randomPart (t : TraceId) :
    t.randomPart.toInt = Int.bmod t.value.toNat (2 ^ 64) := by
  rw [randomPart, ← Int64.toInt_toBitVec, Int64.toBitVec_ofBitVec, BitVec.toInt_setWidth]

namespace Sampler

/-! ## 1. Every sampler there can be -/

/-- The samplers that are made at some ratio and then asked for others. -/
inductive Reached : Sampler → Prop where
  | made {ratio : Binary64} {s : Sampler} : new ratio = .ok s → Reached s
  | asked {s : Sampler} (ratio : Binary64) : Reached s → Reached (s.setRatio ratio).1

theorem new_eq_ok_iff {ratio : Binary64} {s : Sampler} :
    new ratio = .ok s ↔ ratio.InUnitInterval ∧ s = ⟨ratio, cutPointOf ratio⟩ := by
  unfold new
  split
  · next inside => simp [inside, eq_comm]
  · next outside => simp [outside]

/-- A request is granted exactly for a ratio at which a sampler can be made. -/
theorem setRatio_fst (s : Sampler) (ratio : Binary64) :
    (s.setRatio ratio).1 =
      if ratio.InUnitInterval then ⟨ratio, cutPointOf ratio⟩ else s := by
  by_cases inside : ratio.InUnitInterval <;> simp [setRatio, new, inside]

/-- Ratio and cut point always belong together: a sampler is one that could have
been made at its ratio just now. -/
theorem reached_iff {s : Sampler} :
    Reached s ↔ s.ratio.InUnitInterval ∧ s = ⟨s.ratio, cutPointOf s.ratio⟩ := by
  constructor
  · intro h
    induction h with
    | made made =>
      obtain ⟨inside, rfl⟩ := new_eq_ok_iff.mp made
      exact ⟨inside, rfl⟩
    | asked ratio _ ih =>
      rw [setRatio_fst]
      split
      · next inside => exact ⟨inside, rfl⟩
      · exact ih
  · exact fun h => .made (new_eq_ok_iff.mpr h)

theorem Reached.inUnitInterval {s : Sampler} (h : Reached s) : s.ratio.InUnitInterval :=
  (reached_iff.mp h).1

theorem Reached.cutPoint_eq {s : Sampler} (h : Reached s) : s.cutPoint = cutPointOf s.ratio :=
  congrArg cutPoint (reached_iff.mp h).2

/-! ## 2. Cut points and magnitudes as integers -/

theorem cutPointOf_eq (x : Binary64) :
    cutPointOf x =
      if x.units = 0 then Int64.minValue
      else if x.units = unitsPerOne then Int64.maxValue
      else Int64.ofNat (divHalfUp x.units unitsPerStep) := by
  unfold cutPointOf unitsPerStep
  with_reducible rfl

theorem toInt_cutPointOf (x : Binary64) (h : x.units ≤ unitsPerOne) :
    (cutPointOf x).toInt =
      if x.units = 0 then (-2 ^ 63 : ℤ)
      else if x.units = unitsPerOne then 2 ^ 63 - 1
      else divHalfUp x.units unitsPerStep := by
  rw [cutPointOf_eq]
  split
  · exact Int64.toInt_minValue
  · split
    · exact Int64.toInt_maxValue
    · next notOne =>
      have bound := Binary64.divHalfUp_units_le (lt_of_le_of_ne h notOne)
      exact Int64.toInt_ofNat_of_lt (lt_of_le_of_lt bound (by decide))

/-- Cut points ascend with the ratio. -/
theorem toInt_cutPointOf_mono {x y : Binary64} (h : x.units ≤ y.units)
    (hy : y.units ≤ unitsPerOne) : (cutPointOf x).toInt ≤ (cutPointOf y).toInt := by
  have between := Binary64.divHalfUp_mono h unitsPerStep
  rw [toInt_cutPointOf x (h.trans hy), toInt_cutPointOf y hy]
  by_cases hx0 : x.units = 0
  · rw [if_pos hx0]
    split_ifs <;> omega
  · rw [if_neg hx0, if_neg (fun hy0 : y.units = 0 => hx0 (by omega))]
    by_cases hx1 : x.units = unitsPerOne
    · rw [if_pos hx1, if_pos (le_antisymm hy (hx1 ▸ h))]
    · have bound := Binary64.divHalfUp_units_le (lt_of_le_of_ne (h.trans hy) hx1)
      rw [if_neg hx1]
      split_ifs <;> omega

/-- The least number has no positive counterpart and is its own magnitude. -/
theorem toInt_abs (m : Int64) :
    m.abs.toInt = if m.toInt = -2 ^ 63 then (-2 ^ 63 : ℤ) else |m.toInt| := by
  have least : m.toBitVec = BitVec.intMin 64 ↔ m.toInt = -2 ^ 63 := by
    rw [← Int64.toInt_minValue, Int64.toInt_inj, ← Int64.toBitVec_inj]
    rfl
  rw [← Int64.toInt_toBitVec, Int64.toBitVec_abs, BitVec.toInt_abs_eq_natAbs]
  split
  · next h => rw [if_pos (least.mp h)]; rfl
  · next h => rw [if_neg (fun e => h (least.mpr e)), Int64.toInt_toBitVec, Int.natCast_natAbs]

/-! ## 3. The threshold -/

/-- A trace is kept when its magnitude is below the cut point or the cut point is
the greatest number. -/
theorem decide_eq_sample_iff_lt (s : Sampler) (t : TraceId) :
    s.decide t = .sample ↔
      s.cutPoint = Int64.maxValue ∨ t.randomPart.abs.toInt < s.cutPoint.toInt := by
  simp only [decide, Int64.lt_iff_toInt_lt]
  split <;> simp [*]

/-- **Between 0 and 1 the rounded ratio is a threshold.** With `m` the lower half
of the identifier read as a signed number, a trace is kept when the absolute
value of `m` is below the scaled ratio rounded half away from zero. One trace
in `2 ^ 64` is kept regardless of the ratio: that of the least number, whose
absolute value is no signed 64-bit number. -/
theorem decide_eq_sample_iff {s : Sampler} (reached : Reached s) (positive : 0 < s.ratio.toRat)
    (belowOne : s.ratio.toRat < 1) (t : TraceId) :
    let m : ℤ := Int.bmod t.value.toNat (2 ^ 64)
    s.decide t = .sample ↔ m = -2 ^ 63 ∨ |m| < round (s.ratio.toRat * 2 ^ 63) := by
  intro m
  have inside := reached.inUnitInterval
  rw [Binary64.toRat_pos_iff inside] at positive
  rw [Binary64.toRat_lt_one_iff inside] at belowOne
  have cut : s.cutPoint.toInt = divHalfUp s.ratio.units unitsPerStep := by
    rw [reached.cutPoint_eq, toInt_cutPointOf _ inside.1, if_neg positive.ne', if_neg belowOne.ne]
  have notGreatest : s.cutPoint ≠ Int64.maxValue := by
    have bound := Binary64.divHalfUp_units_le belowOne
    intro greatest
    rw [greatest, Int64.toInt_maxValue] at cut
    omega
  rw [decide_eq_sample_iff_lt, or_iff_right notGreatest, toInt_abs, TraceId.toInt_randomPart,
    Binary64.round_toRat_mul inside, cut]
  by_cases least : m = -2 ^ 63
  · -- No cut point between the ends is as low as the least number.
    rw [if_pos least]
    exact iff_of_true (by omega) (.inl least)
  · rw [if_neg least, or_iff_right least]

/-- The trace right at the cut point of the greatest ratio below 1. -/
theorem decide_eq_sample_iff_at_cut_point :
    let s : Sampler := ⟨⟨0x3FEFFFFFFFFFFFFF⟩, 9223372036854774784⟩
    let t : TraceId := ⟨0x80000000000003FF8000000000000400⟩
    let m : ℤ := Int.bmod t.value.toNat (2 ^ 64)
    (Reached s ∧ 0 < s.ratio.toRat ∧ s.ratio.toRat < 1) ∧
      (s.decide t = .sample ↔ m = -2 ^ 63 ∨ |m| < round (s.ratio.toRat * 2 ^ 63)) := by
  intro s t
  have reached : Reached s := reached_iff.mpr ⟨by decide +kernel, by decide +kernel⟩
  have positive := (Binary64.toRat_pos_iff reached.inUnitInterval).mpr (by decide +kernel)
  have belowOne := (Binary64.toRat_lt_one_iff reached.inUnitInterval).mpr (by decide +kernel)
  exact ⟨⟨reached, positive, belowOne⟩, decide_eq_sample_iff reached positive belowOne t⟩

/-- At one half the trace of the least number is kept, though its absolute value
is twice the cut point. -/
theorem sample_least_at_half :
    let s : Sampler := ⟨.half, 4611686018427387904⟩
    let t : TraceId := ⟨0x8000000000000000⟩
    let m : ℤ := Int.bmod t.value.toNat (2 ^ 64)
    Sampler.new .half = .ok s ∧ s.decide t = .sample ∧
      ¬ |m| < round (Binary64.half.toRat * 2 ^ 63) := by
  intro s t m
  have made : Sampler.new .half = .ok s :=
    new_eq_ok_iff.mpr ⟨by decide +kernel, by decide +kernel⟩
  have cut : (divHalfUp Binary64.half.units unitsPerStep : ℤ) = 2 ^ 62 := by decide +kernel
  refine ⟨made, by decide +kernel, ?_⟩
  rw [Binary64.round_toRat_mul (Reached.made made).inUnitInterval, cut]
  decide +kernel

/-! ## 4. Nested ratios -/

/-- **A greater ratio keeps whatever a smaller one keeps.** So services at
different ratios keep nested sets of traces, and no trace is lost when a ratio
is raised. -/
theorem decide_mono {s s' : Sampler} (reached : Reached s) (reached' : Reached s')
    (atMost : s.ratio.toRat ≤ s'.ratio.toRat) (t : TraceId) (kept : s.decide t = .sample) :
    s'.decide t = .sample := by
  have units := (Binary64.toRat_le_toRat_iff reached.inUnitInterval reached'.inUnitInterval).mp
    atMost
  have cuts : s.cutPoint.toInt ≤ s'.cutPoint.toInt := by
    rw [reached.cutPoint_eq, reached'.cutPoint_eq]
    exact toInt_cutPointOf_mono units reached'.inUnitInterval.1
  rw [decide_eq_sample_iff_lt] at kept ⊢
  rcases kept with always | below
  · have greatest := Int64.toInt_lt s'.cutPoint
    rw [always, Int64.toInt_maxValue] at cuts
    exact .inl (Int64.toInt_inj.mp (by rw [Int64.toInt_maxValue]; omega))
  · exact .inr (lt_of_lt_of_le below cuts)

/-- From the least ratio above 0, whose cut point is 0, to the greatest below 1. -/
theorem decide_mono_from_least_ratio :
    let s : Sampler := ⟨⟨1⟩, 0⟩
    let s' : Sampler := ⟨⟨0x3FEFFFFFFFFFFFFF⟩, 9223372036854774784⟩
    let t : TraceId := ⟨0x8000000000000000⟩
    (Reached s ∧ Reached s' ∧ s.ratio.toRat ≤ s'.ratio.toRat ∧ s.decide t = .sample) ∧
      s'.decide t = .sample := by
  intro s s' t
  have reached : Reached s := reached_iff.mpr ⟨by decide +kernel, by decide +kernel⟩
  have reached' : Reached s' := reached_iff.mpr ⟨by decide +kernel, by decide +kernel⟩
  have atMost : s.ratio.toRat ≤ s'.ratio.toRat :=
    (Binary64.toRat_le_toRat_iff reached.inUnitInterval reached'.inUnitInterval).mpr
      (by decide +kernel)
  have kept : s.decide t = .sample := by decide +kernel
  exact ⟨⟨reached, reached', atMost, kept⟩, decide_mono reached reached' atMost t kept⟩

end Sampler

end TelemetryControl
