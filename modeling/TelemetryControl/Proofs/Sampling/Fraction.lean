/-
TelemetryControl.Proofs.Sampling.Fraction — what share of the traces is kept.

The decision looks at the lower half of an identifier alone, so the share that
a sampler keeps is a number of halves out of `2 ^ 64`. The halves are the
signed numbers from `-2 ^ 63` on, once each, and so the share is counted on an
interval of integers (`ncard_keptHalves`).

Below the cut point `k` lie the `2 k - 1` numbers of lesser absolute value, and
the least number besides, which passes every cut point but the one of ratio
zero. That makes `2 k` of `2 ^ 64` (`ncard_keptNumbers_of_between`), the ratio
rounded, except that the least number is kept also when `k` is zero. Either
way the share is off by one half step of the cut point at most, which is what
`kept_fraction` says.
-/
import TelemetryControl.Proofs.Sampling.Threshold
import Mathlib.Data.Int.Interval
import Mathlib.Data.Set.Card
import Mathlib.Tactic.Linarith

namespace TelemetryControl

open Binary64 (unitsPerOne unitsPerStep divHalfUp)

/-! ## 1. The lower half of an identifier -/

theorem TraceId.randomPart_append (upper lower : BitVec 64) :
    (TraceId.mk (upper ++ lower)).randomPart.toInt = lower.toInt := by
  have half : (upper ++ lower).setWidth 64 = lower := by
    rw [BitVec.setWidth_append, dif_pos (le_refl 64), BitVec.setWidth_eq]
  show (Int64.ofBitVec ((upper ++ lower).setWidth 64)).toInt = lower.toInt
  rw [half, ← Int64.toInt_toBitVec, Int64.toBitVec_ofBitVec]

/-- The integers of the signed 64-bit numbers. -/
def signedRange : Set ℤ := {m | -2 ^ 63 ≤ m ∧ m < 2 ^ 63}

theorem mem_signedRange (m : ℤ) : m ∈ signedRange ↔ ∃ w : BitVec 64, w.toInt = m := by
  constructor
  · rintro ⟨low, high⟩
    refine ⟨BitVec.ofInt 64 m, ?_⟩
    rw [BitVec.toInt_ofInt]
    exact Int.bmod_eq_of_le (by omega) (by omega)
  · rintro ⟨w, rfl⟩
    have low := w.le_toInt
    have high := w.toInt_lt
    exact ⟨by omega, by omega⟩

namespace Sampler

/-- The magnitude that is compared with a cut point: the absolute value, but the
least number is its own. -/
def magnitude (m : ℤ) : ℤ := if m = -2 ^ 63 then -2 ^ 63 else |m|

@[simp] theorem magnitude_least : magnitude (-2 ^ 63) = -2 ^ 63 := if_pos rfl

theorem magnitude_of_ne {m : ℤ} (h : m ≠ -2 ^ 63) : magnitude m = |m| := if_neg h

/-- The lower halves whose traces are kept under some upper half. -/
def keptHalves (s : Sampler) (upper : BitVec 64) : Set (BitVec 64) :=
  {lower | s.decide ⟨upper ++ lower⟩ = .sample}

/-- The numbers that are kept at a cut point. -/
def keptNumbers (s : Sampler) : Set ℤ :=
  {m ∈ signedRange | s.cutPoint = Int64.maxValue ∨ magnitude m < s.cutPoint.toInt}

/-- The decision is taken from the lower half alone. -/
theorem decide_congr (s : Sampler) {t t' : TraceId}
    (same : t.value.setWidth 64 = t'.value.setWidth 64) : s.decide t = s.decide t' := by
  have part : t.randomPart = t'.randomPart := by
    unfold TraceId.randomPart
    rw [same]
  unfold decide
  rw [part]

theorem mem_keptHalves (s : Sampler) (upper lower : BitVec 64) :
    lower ∈ s.keptHalves upper ↔ lower.toInt ∈ s.keptNumbers := by
  have inRange : lower.toInt ∈ signedRange := (mem_signedRange _).mpr ⟨lower, rfl⟩
  simp only [keptNumbers, Set.mem_ofPred_eq, inRange, true_and]
  show s.decide ⟨upper ++ lower⟩ = .sample ↔ _
  rw [decide_eq_sample_iff_lt, toInt_abs, TraceId.randomPart_append]
  exact Iff.rfl

/-- Halves are counted as numbers. -/
theorem ncard_keptHalves (s : Sampler) (upper : BitVec 64) :
    (s.keptHalves upper).ncard = s.keptNumbers.ncard := by
  have injective : Function.Injective (@BitVec.toInt 64) :=
    fun _ _ same => BitVec.toInt_inj.mp same
  have image : BitVec.toInt '' s.keptHalves upper = s.keptNumbers := by
    ext m
    constructor
    · rintro ⟨lower, kept, rfl⟩
      exact (s.mem_keptHalves upper lower).mp kept
    · intro kept
      obtain ⟨lower, rfl⟩ := (mem_signedRange m).mp kept.1
      exact ⟨lower, (s.mem_keptHalves upper lower).mpr kept, rfl⟩
  rw [← Set.ncard_image_of_injective _ injective, image]

/-! ## 2. Counting -/

theorem neg_two_pow_le_magnitude (m : ℤ) : -2 ^ 63 ≤ magnitude m := by
  by_cases least : m = -2 ^ 63
  · rw [least, magnitude_least]
  · have nonneg := abs_nonneg m
    rw [magnitude_of_ne least]
    omega

/-- No magnitude is below the cut point of ratio zero. -/
theorem ncard_keptNumbers_of_least {s : Sampler} (least : s.cutPoint = Int64.minValue) :
    s.keptNumbers.ncard = 0 := by
  have none : s.keptNumbers = ∅ := by
    refine Set.eq_empty_iff_forall_notMem.mpr (fun m kept => ?_)
    have bound := neg_two_pow_le_magnitude m
    rw [keptNumbers, least, Int64.toInt_minValue] at kept
    rcases kept.2 with greatest | below
    · exact absurd greatest (by decide)
    · omega
  rw [none, Set.ncard_empty]

/-- At the cut point of ratio one every trace is kept. -/
theorem ncard_keptNumbers_of_greatest {s : Sampler} (greatest : s.cutPoint = Int64.maxValue) :
    s.keptNumbers.ncard = 2 ^ 64 := by
  have all : s.keptNumbers = Finset.Ico (-2 ^ 63) (2 ^ 63) := by
    ext m
    simp [keptNumbers, signedRange, greatest]
  rw [all, Set.ncard_coe_finset, Int.card_Ico]
  rfl

/-- In between, the numbers of lesser absolute value are kept and the least number
with them. -/
theorem ncard_keptNumbers_of_between {s : Sampler} {k : ℕ} (cut : s.cutPoint.toInt = k)
    (bound : k < 2 ^ 63 - 1) : s.keptNumbers.ncard = max 1 (2 * k) := by
  have notGreatest : s.cutPoint ≠ Int64.maxValue := by
    intro greatest
    rw [greatest, Int64.toInt_maxValue] at cut
    omega
  have kept : s.keptNumbers = insert (-2 ^ 63) (Finset.Ioo (-(k : ℤ)) k) := by
    ext m
    simp only [keptNumbers, signedRange, cut, notGreatest, false_or, Set.mem_ofPred_eq,
      Finset.mem_coe, Finset.mem_insert, Finset.mem_Ioo]
    by_cases least : m = -2 ^ 63
    · subst least
      rw [magnitude_least]
      omega
    · rw [magnitude_of_ne least, abs_lt]
      omega
  have outside : (-2 ^ 63 : ℤ) ∉ Finset.Ioo (-(k : ℤ)) k := by
    simp only [Finset.mem_Ioo]
    omega
  rw [kept, Set.ncard_coe_finset, Finset.card_insert_of_notMem outside, Int.card_Ioo]
  omega

/-- How many halves a sampler keeps, by the units of its ratio. -/
theorem Reached.ncard_keptNumbers {s : Sampler} (reached : Reached s) :
    s.keptNumbers.ncard =
      if s.ratio.units = 0 then 0
      else if s.ratio.units = unitsPerOne then 2 ^ 64
      else max 1 (2 * divHalfUp s.ratio.units unitsPerStep) := by
  have cut : s.cutPoint = _ := reached.cutPoint_eq.trans (cutPointOf_eq s.ratio)
  by_cases zero : s.ratio.units = 0
  · rw [if_pos zero] at cut ⊢
    exact ncard_keptNumbers_of_least cut
  · by_cases one : s.ratio.units = unitsPerOne
    · rw [if_neg zero, if_pos one] at cut ⊢
      exact ncard_keptNumbers_of_greatest cut
    · have atMost := reached.inUnitInterval.1
      have number := toInt_cutPointOf s.ratio atMost
      have bound := Binary64.divHalfUp_units_le (lt_of_le_of_ne atMost one)
      rw [if_neg zero, if_neg one] at number ⊢
      rw [← reached.cutPoint_eq] at number
      exact ncard_keptNumbers_of_between number (by omega)

/-! ## 3. The share of a ratio -/

/-- Rounding moves a scaled ratio by one half at most. -/
theorem abs_divHalfUp_sub_le {x : Binary64} (h : x.InUnitInterval) :
    |(divHalfUp x.units unitsPerStep : ℚ) - x.toRat * 2 ^ 63| ≤ 1 / 2 := by
  have near := abs_sub_round (x.toRat * 2 ^ 63)
  rw [Binary64.round_toRat_mul h, abs_sub_comm] at near
  exact_mod_cast near

/-- Twice the cut point out of `2 ^ 64` is the ratio up to half a step. The least
number makes up for a cut point of zero, which only a ratio below half a step
has. -/
theorem abs_share_sub_le {k : ℕ} {r : ℚ} (positive : 0 < r)
    (near : |(k : ℚ) - r * 2 ^ 63| ≤ 1 / 2) :
    |((max 1 (2 * k) : ℕ) : ℚ) / 2 ^ 64 - r| ≤ 1 / 2 ^ 64 := by
  obtain ⟨below, above⟩ := abs_le.mp near
  rw [abs_le]
  rcases Nat.eq_zero_or_pos k with rfl | cut
  · have one : max 1 (2 * 0) = 1 := rfl
    rw [one]
    push_cast at below above ⊢
    constructor <;> linarith
  · have twice : max 1 (2 * k) = 2 * k := by omega
    rw [twice]
    push_cast
    constructor <;> linarith

/-- **A sampler keeps the share of the traces that its ratio says.** Only the lower
half of an identifier is looked at, and of its `2 ^ 64` values as many are
kept as the ratio asks for, up to one in `2 ^ 64`: none at zero of either
sign, and all of them at one. -/
theorem kept_fraction {s : Sampler} (reached : Reached s) :
    (∀ t t' : TraceId, t.value.setWidth 64 = t'.value.setWidth 64 → s.decide t = s.decide t') ∧
      ∀ upper : BitVec 64,
        let kept := (s.keptHalves upper).ncard
        |(kept : ℚ) / 2 ^ 64 - s.ratio.toRat| ≤ 1 / 2 ^ 64 ∧
          (s.ratio.toRat = 0 → kept = 0) ∧ (s.ratio.toRat = 1 → kept = 2 ^ 64) := by
  refine ⟨fun _ _ same => s.decide_congr same, fun upper => ?_⟩
  intro kept
  have inside := reached.inUnitInterval
  have positive := Binary64.toRat_pos_iff inside
  have belowOne := Binary64.toRat_lt_one_iff inside
  have counted : kept = _ := (s.ncard_keptHalves upper).trans reached.ncard_keptNumbers
  obtain ⟨-, nonneg, atMost⟩ := (Binary64.inUnitInterval_iff s.ratio).mp inside
  rcases nonneg.eq_or_lt with zero | aboveZero
  · have noUnits : s.ratio.units = 0 := by
      by_contra units
      exact absurd (positive.mpr (Nat.pos_of_ne_zero units)) zero.not_lt
    rw [if_pos noUnits] at counted
    rw [counted, ← zero]
    norm_num
  · rw [if_neg (positive.mp aboveZero).ne'] at counted
    rcases atMost.eq_or_lt with one | less
    · have allUnits : s.ratio.units = unitsPerOne := by
        by_contra units
        exact absurd (belowOne.mpr (lt_of_le_of_ne inside.1 units)) one.not_lt
      rw [if_pos allUnits] at counted
      rw [counted, one]
      norm_num
    · rw [if_neg (belowOne.mp less).ne] at counted
      refine ⟨?_, fun zero => absurd zero aboveZero.ne', fun one => absurd one less.ne⟩
      rw [counted]
      exact abs_share_sub_le aboveZero (abs_divHalfUp_sub_le inside)

/-- At the least ratio above zero the cut point is zero, and the one trace kept is
that of the least number. -/
theorem kept_fraction_at_least_ratio :
    let s : Sampler := ⟨⟨1⟩, 0⟩
    Reached s ∧ (s.keptHalves 0).ncard = 1 ∧
      |((s.keptHalves 0).ncard : ℚ) / 2 ^ 64 - s.ratio.toRat| ≤ 1 / 2 ^ 64 := by
  intro s
  have reached : Reached s := reached_iff.mpr ⟨by decide +kernel, by decide +kernel⟩
  have one : (s.keptHalves 0).ncard = 1 :=
    (s.ncard_keptHalves 0).trans (ncard_keptNumbers_of_between (k := 0) rfl (by decide))
  exact ⟨reached, one, ((kept_fraction reached).2 0).1⟩

end Sampler

end TelemetryControl
