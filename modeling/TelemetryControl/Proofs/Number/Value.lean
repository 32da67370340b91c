/-
TelemetryControl.Proofs.Number.Value — the number that a double denotes.

The library knows the size of a double as a count of units. What is promised
about ratios speaks of numbers, so here the count is read as a rational
(`toRat`). The range check is a comparison of that rational with 0 and 1
(`inUnitInterval_iff`), the order of two ratios is that of their counts
(`toRat_le_toRat_iff`), and the scaled ratio rounds to the quotient that the
library takes (`round_toRat_mul`).

Powers of two with large exponents stay behind names here, `unitsPerOne` and
`unitsPerStep`, so that nothing ever writes them out.
-/
import TelemetryControl.Number.Binary64
import Mathlib.Algebra.Order.Round
import Mathlib.Data.Rat.Floor
import Mathlib.Tactic.FieldSimp
import Mathlib.Tactic.NormNum

namespace TelemetryControl.Binary64

/-- The rational that a finite double denotes. -/
def toRat (x : Binary64) : ℚ :=
  (if x.negative then -1 else 1) * (x.units / unitsPerOne)

/-- The units of one step of the cut point, of which `2 ^ 63` make 1.0. -/
def unitsPerStep : Nat := Nat.pow 2 1011

/-! ## 1. Units -/

theorem unitsPerOne_eq_mul : unitsPerOne = 2 ^ 63 * unitsPerStep := by decide +kernel

theorem exists_unitsPerOne_eq : ∃ n, n = 1074 ∧ unitsPerOne = 2 ^ n :=
  ⟨1074, rfl, by decide +kernel⟩

theorem exists_unitsPerStep_eq : ∃ n, n = 1011 ∧ unitsPerStep = 2 ^ n :=
  ⟨1011, rfl, by decide +kernel⟩

theorem unitsPerOne_pos : 0 < unitsPerOne := by decide +kernel

theorem unitsPerStep_pos : 0 < unitsPerStep := by decide +kernel

theorem fractionField_lt (x : Binary64) : x.fractionField < 2 ^ 52 :=
  Nat.mod_lt _ (by decide)

theorem units_of_exponentField {x : Binary64} {e : Nat} (h : x.exponentField = e + 1) :
    x.units = (2 ^ 52 + x.fractionField) * 2 ^ e := by
  simp [units, h]

/-- Infinities and what is no number count as more than 1. -/
theorem unitsPerOne_lt_units {x : Binary64} (special : x.isSpecial = true) :
    unitsPerOne < x.units := by
  obtain ⟨n, hn, one⟩ := exists_unitsPerOne_eq
  obtain ⟨e, he, field⟩ : ∃ e, e = 2046 ∧ x.exponentField = e + 1 :=
    ⟨2046, rfl, by simpa [isSpecial] using special⟩
  rw [units_of_exponentField field, one]
  calc 2 ^ n < 2 ^ e := Nat.pow_lt_pow_right (by decide) (by omega)
    _ ≤ (2 ^ 52 + x.fractionField) * 2 ^ e := Nat.le_mul_of_pos_left _ (Nat.add_pos_left (by decide) _)

/-- Below 1 a double has at most 53 significant bits, and the last of them is
worth `2 ^ 10` steps or less. -/
theorem units_le_of_lt_unitsPerOne {x : Binary64} (h : x.units < unitsPerOne) :
    x.units ≤ (2 ^ 53 - 1) * (2 ^ 10 * unitsPerStep) := by
  obtain ⟨n, hn, one⟩ := exists_unitsPerOne_eq
  obtain ⟨m, hm, step⟩ := exists_unitsPerStep_eq
  have fraction := x.fractionField_lt
  cases field : x.exponentField with
  | zero =>
    have subnormal : x.units = x.fractionField := by simp [units, field]
    rw [subnormal]
    calc x.fractionField ≤ 2 ^ 53 - 1 := by omega
      _ ≤ (2 ^ 53 - 1) * (2 ^ 10 * unitsPerStep) :=
        Nat.le_mul_of_pos_right _ (Nat.mul_pos (by decide) unitsPerStep_pos)
  | succ e =>
    rw [units_of_exponentField field] at h ⊢
    have leading : 2 ^ (52 + e) < 2 ^ n :=
      calc 2 ^ (52 + e) = 2 ^ 52 * 2 ^ e := pow_add _ _ _
        _ ≤ (2 ^ 52 + x.fractionField) * 2 ^ e := Nat.mul_le_mul_right _ (Nat.le_add_right _ _)
        _ < 2 ^ n := one ▸ h
    have binade := (Nat.pow_lt_pow_iff_right (by decide)).mp leading
    have last : 2 ^ e ≤ 2 ^ 10 * unitsPerStep := by
      rw [step, ← pow_add]
      exact Nat.pow_le_pow_right (by decide) (by omega)
    exact Nat.mul_le_mul (by omega) last

/-! ## 2. The range of a ratio -/

/-- From 0 to 1 the sign says nothing: only a zero may have one. -/
theorem toRat_of_inUnitInterval {x : Binary64} (h : x.InUnitInterval) :
    x.toRat = x.units / unitsPerOne := by
  unfold toRat
  split
  · next negative => rw [h.2 negative, Nat.cast_zero, zero_div, mul_zero]
  · rw [one_mul]

/-- The range check accepts the finite doubles from 0 to 1, and these alone. -/
theorem inUnitInterval_iff (x : Binary64) :
    x.InUnitInterval ↔ x.isSpecial = false ∧ 0 ≤ x.toRat ∧ x.toRat ≤ 1 := by
  have one : (0 : ℚ) < unitsPerOne := by exact_mod_cast unitsPerOne_pos
  have below : (x.units : ℚ) / unitsPerOne ≤ 1 ↔ x.units ≤ unitsPerOne := by
    rw [div_le_one one, Nat.cast_le]
  constructor
  · intro h
    have finite : x.isSpecial = false := by
      by_contra special
      exact absurd h.1 (Nat.not_le.mpr (unitsPerOne_lt_units (by simpa using special)))
    rw [toRat_of_inUnitInterval h]
    exact ⟨finite, div_nonneg (Nat.cast_nonneg _) one.le, below.mpr h.1⟩
  · rintro ⟨-, nonneg, atMost⟩
    unfold toRat at nonneg atMost
    cases negative : x.negative with
    | false =>
      rw [negative, if_neg Bool.false_ne_true, one_mul] at atMost
      exact ⟨below.mp atMost, by simp [negative]⟩
    | true =>
      -- A negative number is at least 0 only when it has no units.
      rw [negative, if_pos rfl, neg_one_mul, neg_nonneg, div_le_iff₀ one, zero_mul] at nonneg
      have zero : x.units = 0 := by exact_mod_cast le_antisymm nonneg (Nat.cast_nonneg _)
      exact ⟨by simp [zero], fun _ => zero⟩

section Order

variable {x y : Binary64} (hx : x.InUnitInterval) (hy : y.InUnitInterval)
include hx

theorem toRat_pos_iff : 0 < x.toRat ↔ 0 < x.units := by
  have one : (0 : ℚ) < unitsPerOne := by exact_mod_cast unitsPerOne_pos
  rw [toRat_of_inUnitInterval hx, div_pos_iff_of_pos_right one, Nat.cast_pos]

theorem toRat_lt_one_iff : x.toRat < 1 ↔ x.units < unitsPerOne := by
  have one : (0 : ℚ) < unitsPerOne := by exact_mod_cast unitsPerOne_pos
  rw [toRat_of_inUnitInterval hx, div_lt_one one, Nat.cast_lt]

include hy in
theorem toRat_le_toRat_iff : x.toRat ≤ y.toRat ↔ x.units ≤ y.units := by
  have one : (0 : ℚ) < unitsPerOne := by exact_mod_cast unitsPerOne_pos
  rw [toRat_of_inUnitInterval hx, toRat_of_inUnitInterval hy, div_le_div_iff_of_pos_right one,
    Nat.cast_le]

end Order

/-! ## 3. Rounding -/

theorem divHalfUp_mono {m n : Nat} (h : m ≤ n) (d : Nat) : divHalfUp m d ≤ divHalfUp n d :=
  Nat.div_le_div_right (by omega)

/-- Rounding half upwards is Mathlib's rounding. -/
theorem round_natCast_div (n : Nat) {d : Nat} (h : 0 < d) :
    round ((n : ℚ) / d) = divHalfUp n d := by
  have positive : (d : ℚ) ≠ 0 := by exact_mod_cast h.ne'
  have half : (n : ℚ) / d + 1 / 2 = ((2 * n + d : ℕ) : ℚ) / ((2 * d : ℕ) : ℚ) := by
    push_cast
    field_simp
  rw [round_eq, half, Rat.floor_natCast_div_natCast, divHalfUp]
  push_cast
  rfl

/-- The scaled ratio, rounded, is a quotient of units. -/
theorem round_toRat_mul {x : Binary64} (h : x.InUnitInterval) :
    round (x.toRat * 2 ^ 63) = divHalfUp x.units unitsPerStep := by
  have step : (unitsPerStep : ℚ) ≠ 0 := by exact_mod_cast unitsPerStep_pos.ne'
  have scaled : x.toRat * 2 ^ 63 = (x.units : ℚ) / unitsPerStep := by
    rw [toRat_of_inUnitInterval h, unitsPerOne_eq_mul]
    push_cast
    field_simp
    norm_num
  rw [scaled, round_natCast_div _ unitsPerStep_pos]

/-- Below 1 the scaled ratio stays below the greatest signed number by far. -/
theorem divHalfUp_units_le {x : Binary64} (h : x.units < unitsPerOne) :
    divHalfUp x.units unitsPerStep ≤ 2 ^ 63 - 1024 := by
  have bound := units_le_of_lt_unitsPerOne h
  have positive := unitsPerStep_pos
  rw [divHalfUp]
  refine Nat.le_of_lt_succ ((Nat.div_lt_iff_lt_mul (by omega)).mpr ?_)
  generalize unitsPerStep = step at *
  omega

end TelemetryControl.Binary64
