/-
TelemetryControl.Proofs.Sampling.Requests — a sampler that is asked for ratios.

A request is granted or refused, and a refused one leaves no trace, so what a
run of requests leaves is the sampler of the last ratio that could be
granted (`exists_last_granted`). That a ratio can be granted is said here of the
number it denotes (`IsShare`), not of the check that is made.

In every state of a run the cut point is the one of the ratio beside it. The
numbers at its two ends belong to ratio zero and ratio one alone, and between
them the cut point is the scaled ratio rounded, which stays 1024 short of the
greatest number at least (`Reached.toInt_cutPoint`). Nothing is lost before the
rounding either: the scaled ratio is a double itself.
-/
import TelemetryControl.Proofs.Number.Product
import TelemetryControl.Proofs.Sampling.Threshold

namespace TelemetryControl

open Binary64 (unitsPerOne unitsPerStep divHalfUp idSpace)

/-- The finite doubles from 0 to 1, by the number they denote. -/
def Binary64.IsShare (x : Binary64) : Prop :=
  x.isSpecial = false ∧ 0 ≤ x.toRat ∧ x.toRat ≤ 1

instance (x : Binary64) : Decidable x.IsShare :=
  decidable_of_iff x.InUnitInterval x.inUnitInterval_iff

namespace Sampler

/-- The sampler after requests for some ratios, and what each was answered. -/
def requests (s : Sampler) : List Binary64 → Sampler × List (Option Fault)
  | [] => (s, [])
  | ratio :: rest =>
    let (s', answer) := s.setRatio ratio
    let (s'', answers) := s'.requests rest
    (s'', answer :: answers)

/-! ## 1. One request -/

variable {s : Sampler} {ratio : Binary64}

theorem new_eq_ok_of_isShare (share : ratio.IsShare) : new ratio = .ok ⟨ratio, cutPointOf ratio⟩ :=
  new_eq_ok_iff.mpr ⟨ratio.inUnitInterval_iff.mpr share, rfl⟩

theorem isShare_of_new_eq_ok (made : new ratio = .ok s) : ratio.IsShare :=
  ratio.inUnitInterval_iff.mp (new_eq_ok_iff.mp made).1

theorem setRatio_of_isShare (s : Sampler) (share : ratio.IsShare) :
    s.setRatio ratio = (⟨ratio, cutPointOf ratio⟩, none) := by
  rw [setRatio, new_eq_ok_of_isShare share]

/-- A refused request names the ratio it was made for, and nothing else comes of it. -/
theorem setRatio_of_not_isShare (s : Sampler) (outside : ¬ ratio.IsShare) :
    s.setRatio ratio = (s, some (.invalidRatio ratio)) := by
  have refused : new ratio = .error (.invalidRatio ratio) :=
    if_neg fun inside => outside (ratio.inUnitInterval_iff.mp inside)
  rw [setRatio, refused]

/-! ## 2. A run of requests -/

theorem requests_cons (s : Sampler) (ratio : Binary64) (rest : List Binary64) :
    s.requests (ratio :: rest) =
      (((s.setRatio ratio).1.requests rest).1,
        (s.setRatio ratio).2 :: ((s.setRatio ratio).1.requests rest).2) := rfl

/-- What is answered depends on the request alone. -/
theorem answers_requests (s : Sampler) (ratios : List Binary64) :
    (s.requests ratios).2 =
      ratios.map (fun r => if r.IsShare then none else some (.invalidRatio r)) := by
  induction ratios generalizing s with
  | nil => rfl
  | cons ratio rest ih =>
    rw [requests_cons, ih, List.map_cons]
    by_cases share : ratio.IsShare
    · rw [setRatio_of_isShare s share, if_pos share]
    · rw [setRatio_of_not_isShare s share, if_neg share]

theorem Reached.requests (reached : Reached s) (ratios : List Binary64) :
    Reached (s.requests ratios).1 := by
  induction ratios generalizing s with
  | nil => exact reached
  | cons ratio rest ih => exact ih (.asked ratio reached)

/-- The last ratio that can be granted is the one that stays. -/
theorem exists_last_granted {initial : Binary64} (made : new initial = .ok s)
    (ratios : List Binary64) :
    ∃ earlier last later, initial :: ratios = earlier ++ last :: later ∧ last.IsShare ∧
      (∀ r ∈ later, ¬ r.IsShare) ∧ new last = .ok (s.requests ratios).1 := by
  induction ratios generalizing initial s with
  | nil => exact ⟨[], initial, [], rfl, isShare_of_new_eq_ok made, by simp, made⟩
  | cons ratio rest ih =>
    rw [requests_cons]
    by_cases share : ratio.IsShare
    · -- What was granted before counts no more.
      rw [setRatio_of_isShare s share]
      obtain ⟨earlier, last, later, split, found⟩ := ih (new_eq_ok_of_isShare share)
      exact ⟨initial :: earlier, last, later, by rw [split, List.cons_append], found⟩
    · rw [setRatio_of_not_isShare s share]
      obtain ⟨earlier, last, later, split, granted, refused, done⟩ := ih made
      cases earlier with
      | nil =>
        obtain ⟨rfl, rfl⟩ := List.cons.inj split
        exact ⟨[], initial, ratio :: rest, rfl, granted, by simpa [share] using refused, done⟩
      | cons first earlier =>
        obtain ⟨rfl, rfl⟩ := List.cons.inj split
        exact ⟨initial :: ratio :: earlier, last, later, rfl, granted, refused, done⟩

/-! ## 3. Ratio and cut point -/

theorem Reached.toRat_eq_zero_iff (reached : Reached s) :
    s.ratio.toRat = 0 ↔ s.ratio.units = 0 := by
  have nonneg := (s.ratio.inUnitInterval_iff.mp reached.inUnitInterval).2.1
  rw [← not_iff_not, ← ne_eq, ← ne_eq, ← Nat.pos_iff_ne_zero,
    ← Binary64.toRat_pos_iff reached.inUnitInterval, nonneg.lt_iff_ne, ne_comm]

theorem Reached.toRat_eq_one_iff (reached : Reached s) :
    s.ratio.toRat = 1 ↔ s.ratio.units = unitsPerOne := by
  have atMost := (s.ratio.inUnitInterval_iff.mp reached.inUnitInterval).2.2
  rw [← not_iff_not, ← ne_eq, ← ne_eq, ← atMost.lt_iff_ne,
    Binary64.toRat_lt_one_iff reached.inUnitInterval, reached.inUnitInterval.1.lt_iff_ne]

/-- Between the ends the cut point is the scaled ratio rounded, and far from the
greatest number. -/
theorem Reached.toInt_cutPoint (reached : Reached s) (nonzero : s.ratio.toRat ≠ 0)
    (notOne : s.ratio.toRat ≠ 1) :
    s.cutPoint.toInt = round (s.ratio.toRat * 2 ^ 63) ∧
      0 ≤ s.cutPoint.toInt ∧ s.cutPoint.toInt ≤ 2 ^ 63 - 1024 := by
  rw [Ne, reached.toRat_eq_zero_iff] at nonzero
  rw [Ne, reached.toRat_eq_one_iff] at notOne
  have inside := reached.inUnitInterval
  have bound := Binary64.divHalfUp_units_le (lt_of_le_of_ne inside.1 notOne)
  have number : s.cutPoint.toInt = divHalfUp s.ratio.units unitsPerStep := by
    rw [reached.cutPoint_eq, toInt_cutPointOf _ inside.1, if_neg nonzero, if_neg notOne]
  rw [Binary64.round_toRat_mul inside, number]
  exact ⟨rfl, by omega, by omega⟩

theorem Reached.cutPoint_eq_minValue_iff (reached : Reached s) :
    s.cutPoint = Int64.minValue ↔ s.ratio.toRat = 0 := by
  constructor
  · intro least
    by_contra nonzero
    by_cases one : s.ratio.toRat = 1
    · have greatest := reached.cutPoint_eq.trans (cutPointOf_eq s.ratio)
      rw [if_neg (nonzero ∘ reached.toRat_eq_zero_iff.mpr),
        if_pos (reached.toRat_eq_one_iff.mp one), least] at greatest
      exact absurd greatest (by decide)
    · have nonneg := (reached.toInt_cutPoint nonzero one).2.1
      rw [least, Int64.toInt_minValue] at nonneg
      omega
  · intro zero
    rw [reached.cutPoint_eq, cutPointOf_eq, if_pos (reached.toRat_eq_zero_iff.mp zero)]

theorem Reached.cutPoint_eq_maxValue_iff (reached : Reached s) :
    s.cutPoint = Int64.maxValue ↔ s.ratio.toRat = 1 := by
  constructor
  · intro greatest
    by_contra notOne
    by_cases zero : s.ratio.toRat = 0
    · rw [reached.cutPoint_eq_minValue_iff.mpr zero] at greatest
      exact absurd greatest (by decide)
    · have bound := (reached.toInt_cutPoint zero notOne).2.2
      rw [greatest, Int64.toInt_maxValue] at bound
      omega
  · intro one
    have nonzero : s.ratio.units ≠ 0 := by
      rw [reached.toRat_eq_one_iff.mp one]
      exact Binary64.unitsPerOne_pos.ne'
    rw [reached.cutPoint_eq, cutPointOf_eq, if_neg nonzero,
      if_pos (reached.toRat_eq_one_iff.mp one)]

/-- **Ratio and cut point always belong together.** Whatever a sampler is asked
for, it is at the last ratio from 0 to 1 among the first one and those asked
for. Any other request is refused with a fault that names it, and changes
nothing. The cut point is the least number exactly at zero of either sign, the
greatest exactly at one, and the scaled ratio rounded half away from zero at any
other ratio: the product is a double as it is, and the rounded number never
comes near the ends of the range. -/
theorem requests_keep_last_ratio {initial : Binary64} (made : new initial = .ok s)
    (ratios : List Binary64) :
    let asked := s.requests ratios
    let last := asked.1
    (∃ earlier ratio later, initial :: ratios = earlier ++ ratio :: later ∧ ratio.IsShare ∧
      (∀ r ∈ later, ¬ r.IsShare) ∧ new ratio = .ok last) ∧
    asked.2 = ratios.map (fun r => if r.IsShare then none else some (.invalidRatio r)) ∧
    (∀ r, ¬ r.IsShare → last.setRatio r = (last, some (.invalidRatio r))) ∧
    (last.cutPoint = Int64.minValue ↔ last.ratio.toRat = 0) ∧
    (last.cutPoint = Int64.maxValue ↔ last.ratio.toRat = 1) ∧
    (last.ratio.toRat ≠ 0 → last.ratio.toRat ≠ 1 →
      (last.ratio.mul idSpace).toRat = last.ratio.toRat * 2 ^ 63 ∧
      last.cutPoint.toInt = round (last.ratio.toRat * 2 ^ 63) ∧
      0 ≤ last.cutPoint.toInt ∧ last.cutPoint.toInt ≤ 2 ^ 63 - 1024) := by
  intro asked last
  have reached : Reached last := (Reached.made made).requests ratios
  refine ⟨exists_last_granted made ratios, answers_requests s ratios,
    fun r outside => setRatio_of_not_isShare last outside, reached.cutPoint_eq_minValue_iff,
    reached.cutPoint_eq_maxValue_iff, fun nonzero notOne => ?_⟩
  exact ⟨Binary64.toRat_mul_idSpace reached.inUnitInterval.1,
    reached.toInt_cutPoint nonzero notOne⟩

/-- A negative ratio, no number, an infinity and a ratio above one are refused
between the least double and the greatest one below one. -/
theorem requests_keep_last_ratio_past_refusals :
    let least : Binary64 := ⟨1⟩
    let greatest : Binary64 := ⟨0x3FEFFFFFFFFFFFFF⟩
    let s : Sampler := ⟨least, 0⟩
    let ratios : List Binary64 :=
      [⟨0xBFB999999999999A⟩, .notANumber, greatest, .infinity, ⟨0x3FF0000000000001⟩]
    new least = .ok s ∧ (s.requests ratios).1 = ⟨greatest, 9223372036854774784⟩ ∧
      (s.requests ratios).2 =
        ratios.map (fun r => if r.IsShare then none else some (.invalidRatio r)) ∧
      (s.requests ratios).1.cutPoint.toInt = round (greatest.toRat * 2 ^ 63) := by
  intro least greatest s ratios
  have made : new least = .ok s := new_eq_ok_iff.mpr ⟨by decide +kernel, by decide +kernel⟩
  have last : (s.requests ratios).1 = ⟨greatest, 9223372036854774784⟩ := by decide +kernel
  obtain ⟨-, answers, -, atZero, atOne, between⟩ := requests_keep_last_ratio made ratios
  rw [last] at atZero atOne between
  have nonzero : greatest.toRat ≠ 0 := fun zero => absurd (atZero.mpr zero) (by decide)
  have notOne : greatest.toRat ≠ 1 := fun one => absurd (atOne.mpr one) (by decide)
  exact ⟨made, last, answers, last ▸ (between nonzero notOne).2.1⟩

end Sampler

end TelemetryControl
