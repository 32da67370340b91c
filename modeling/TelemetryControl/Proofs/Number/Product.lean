/-
TelemetryControl.Proofs.Number.Product — a ratio times 2⁶³, as doubles.

A cut point is the scaled ratio rounded to a whole number. Scaled as doubles, a
ratio loses nothing: the product of a double and a power of two has the same
significant bits, and there is room for its exponent (`toRat_mul_idSpace`). This
holds down to the least positive double, whose product is a double of full
precision with zeros at its end.

The one fact about rounding that is needed is that a number which has at most
53 significant bits stays as it is (`units_ofRatio_of_eq`).
-/
import TelemetryControl.Proofs.Number.Value
import Mathlib.Data.Nat.Log

namespace TelemetryControl.Binary64

/-- The double 2⁶³. -/
def idSpace : Binary64 := ⟨0x43E0000000000000⟩

/-! ## 1. Doubles put together from their fields -/

theorem toNat_bits_ofMagnitude (negative : Bool) {m : Nat} (h : m < 2 ^ 63) :
    (ofMagnitude negative m).bits.toNat = m + if negative then 2 ^ 63 else 0 := by
  have small : (m + if negative then 2 ^ 63 else 0) < 2 ^ 64 := by split <;> omega
  simpa [ofMagnitude] using Nat.mod_eq_of_lt small

theorem negative_ofMagnitude (negative : Bool) {m : Nat} (h : m < 2 ^ 63) :
    (ofMagnitude negative m).negative = negative := by
  rw [Binary64.negative, toNat_bits_ofMagnitude negative h]
  cases negative with
  | false => simpa using h
  | true => simp

theorem exponentField_ofMagnitude (negative : Bool) {m : Nat} (h : m < 2 ^ 63) :
    (ofMagnitude negative m).exponentField = m / 2 ^ 52 := by
  simp only [exponentField, toNat_bits_ofMagnitude negative h, Nat.pow_eq]
  split <;> omega

theorem fractionField_ofMagnitude (negative : Bool) {m : Nat} (h : m < 2 ^ 63) :
    (ofMagnitude negative m).fractionField = m % 2 ^ 52 := by
  simp only [fractionField, toNat_bits_ofMagnitude negative h, Nat.pow_eq]
  split <;> omega

/-- A significand of 53 bits over an exponent, or a shorter one in the lowest
binade. -/
theorem units_ofMagnitude (negative : Bool) {e q : Nat} (short : q < 2 ^ 53)
    (leading : 2 ^ 52 ≤ q ∨ e = 0) (room : e < 2046) :
    (ofMagnitude negative (e * 2 ^ 52 + q)).units = q * 2 ^ e := by
  have fits : e * 2 ^ 52 + q < 2 ^ 63 := by omega
  rw [units, exponentField_ofMagnitude negative fits, fractionField_ofMagnitude negative fits]
  simp only [Nat.pow_eq]
  by_cases normal : 2 ^ 52 ≤ q
  · have exponent : (e * 2 ^ 52 + q) / 2 ^ 52 = e + 1 := by omega
    have fraction : 2 ^ 52 + (e * 2 ^ 52 + q) % 2 ^ 52 = q := by omega
    rw [exponent, fraction, if_neg (Nat.succ_ne_zero e), Nat.add_sub_cancel]
  · obtain rfl : e = 0 := leading.resolve_left normal
    rw [if_pos (by omega)]
    omega

/-! ## 2. Rounding what needs none -/

theorem divHalfEven_mul_right (q : Nat) {d : Nat} (h : 0 < d) : divHalfEven (q * d) d = q := by
  simp [divHalfEven, h]

/-- A quotient of `w` units that has 53 significant bits or less is that many units
as a double. -/
theorem units_ofRatio_of_eq (negative : Bool) {n d w q : Nat} (positive : 0 < d)
    (exact : n * unitsPerOne = w * d) (shape : w = q * 2 ^ (w.log2 - 52)) (short : q < 2 ^ 53)
    (leading : 2 ^ 52 ≤ q ∨ w.log2 - 52 = 0) (room : w.log2 - 52 < 2046) :
    (ofRatio negative n d).units = w ∧ (ofRatio negative n d).negative = negative := by
  have quotient : n * unitsPerOne / d = w := by rw [exact, Nat.mul_div_cancel _ positive]
  have product : n * unitsPerOne = q * (d * 2 ^ (w.log2 - 52)) := by
    rw [exact, Nat.mul_left_comm, ← shape, Nat.mul_comm]
  have rounded : divHalfEven (n * unitsPerOne) (d * 2 ^ (w.log2 - 52)) = q := by
    rw [product]
    exact divHalfEven_mul_right q (Nat.mul_pos positive (Nat.pow_pos (by decide)))
  have bits : nearestBits n d = (w.log2 - 52) * 2 ^ 52 + q := by
    have most : infinityBits = 2047 * 2 ^ 52 := by decide
    have finite : (w.log2 - 52) * 2 ^ 52 + q ≤ 2047 * 2 ^ 52 := by omega
    rw [nearestBits]
    simp only [quotient, rounded, most, Nat.pow_eq]
    exact Nat.min_eq_left finite
  rw [ofRatio, bits, units_ofMagnitude negative short leading room,
    negative_ofMagnitude negative (by omega), ← shape]
  exact ⟨rfl, rfl⟩

/-! ## 3. The product -/

/-- The units of a double with 52 bits more are a multiple of their own leading
bit. -/
theorem exists_units_mul_eq {x : Binary64} (nonzero : x.units ≠ 0) :
    ∃ q, x.units * 2 ^ 52 = q * 2 ^ x.units.log2 := by
  cases field : x.exponentField with
  | zero =>
    have subnormal : x.units = x.fractionField := by simp [units, field]
    have below : x.units.log2 < 52 :=
      (Nat.log2_lt nonzero).mpr (subnormal ▸ x.fractionField_lt)
    refine ⟨x.units * 2 ^ (52 - x.units.log2), ?_⟩
    rw [Nat.mul_assoc, ← pow_add, Nat.sub_add_cancel below.le]
  | succ e =>
    have fraction := x.fractionField_lt
    have normal := units_of_exponentField field
    have leading : x.units.log2 = 52 + e := by
      refine (Nat.log2_eq_iff nonzero).mpr ?_
      rw [normal, show 52 + e + 1 = 53 + e by omega, pow_add, pow_add]
      exact ⟨Nat.mul_le_mul_right _ (Nat.le_add_right _ _),
        Nat.mul_lt_mul_of_pos_right (by omega) (Nat.pow_pos (by decide))⟩
    refine ⟨2 ^ 52 + x.fractionField, ?_⟩
    rw [leading, normal, pow_add]
    ring

/-- The 53 significant bits of a double, zeros at the end among them. -/
theorem exists_significand {x : Binary64} (nonzero : x.units ≠ 0) :
    ∃ q, x.units * 2 ^ 52 = q * 2 ^ x.units.log2 ∧ 2 ^ 52 ≤ q ∧ q < 2 ^ 53 := by
  obtain ⟨q, shape⟩ := exists_units_mul_eq nonzero
  obtain ⟨low, high⟩ := (Nat.log2_eq_iff nonzero).mp rfl
  refine ⟨q, shape, ?leading, ?short⟩
  case leading =>
    have binade : 0 < 2 ^ x.units.log2 := Nat.pow_pos (by decide)
    refine Nat.le_of_mul_le_mul_right ?_ binade
    rw [← shape, Nat.mul_comm]
    exact Nat.mul_le_mul_right _ low
  case short =>
    refine Nat.lt_of_mul_lt_mul_right (a := 2 ^ x.units.log2) ?_
    calc q * 2 ^ x.units.log2 = x.units * 2 ^ 52 := shape.symm
      _ < 2 ^ (x.units.log2 + 1) * 2 ^ 52 := Nat.mul_lt_mul_of_pos_right high (by decide)
      _ = 2 ^ 53 * 2 ^ x.units.log2 := by ring

theorem units_idSpace : idSpace.units = 2 ^ 63 * unitsPerOne := by decide +kernel

theorem log2_mul_two_pow {n : Nat} (nonzero : n ≠ 0) (k : Nat) :
    (n * 2 ^ k).log2 = n.log2 + k := by
  obtain ⟨low, high⟩ := (Nat.log2_eq_iff nonzero).mp rfl
  have product : n * 2 ^ k ≠ 0 := Nat.mul_ne_zero nonzero (Nat.pow_pos (by decide)).ne'
  refine (Nat.log2_eq_iff product).mpr ⟨?_, ?_⟩
  · rw [pow_add]
    exact Nat.mul_le_mul_right _ low
  · rw [Nat.add_right_comm, pow_add]
    exact Nat.mul_lt_mul_of_pos_right high (Nat.pow_pos (by decide))

/-- Up to 1 the product needs no rounding. -/
theorem units_mul_idSpace {x : Binary64} (h : x.units ≤ unitsPerOne) :
    (x.mul idSpace).units = x.units * 2 ^ 63 ∧ (x.mul idSpace).negative = x.negative := by
  have positive : 0 < unitsPerOne * unitsPerOne := Nat.mul_pos unitsPerOne_pos unitsPerOne_pos
  have exact : x.units * idSpace.units * unitsPerOne =
      x.units * 2 ^ 63 * (unitsPerOne * unitsPerOne) := by
    rw [units_idSpace]
    ring
  have sign : (x.negative != idSpace.negative) = x.negative := by
    have nonnegative : idSpace.negative = false := by decide
    rw [nonnegative, Bool.bne_false]
  rw [mul, sign]
  by_cases zero : x.units = 0
  · have none : x.units * 2 ^ 63 = 0 := by rw [zero, Nat.zero_mul]
    rw [none] at exact ⊢
    exact units_ofRatio_of_eq (q := 0) _ positive exact rfl (by decide) (.inr rfl) (by decide)
  · obtain ⟨n, hn, one⟩ := exists_unitsPerOne_eq
    obtain ⟨q, shape, leading, short⟩ := exists_significand zero
    have exponent : (x.units * 2 ^ 63).log2 - 52 = x.units.log2 + 11 := by
      rw [log2_mul_two_pow zero]
      omega
    have low : 2 ^ x.units.log2 ≤ x.units := ((Nat.log2_eq_iff zero).mp rfl).1
    have room : x.units.log2 ≤ n :=
      (Nat.pow_le_pow_iff_right (by decide)).mp (low.trans (one ▸ h))
    refine units_ofRatio_of_eq _ positive exact ?_ short (.inl leading) (by omega)
    rw [exponent, pow_add, ← Nat.mul_assoc, ← shape]
    ring

/-- **A ratio times 2⁶³ is a double.** -/
theorem toRat_mul_idSpace {x : Binary64} (h : x.units ≤ unitsPerOne) :
    (x.mul idSpace).toRat = x.toRat * 2 ^ 63 := by
  obtain ⟨scaled, sign⟩ := units_mul_idSpace h
  rw [toRat, toRat, scaled, sign]
  push_cast
  ring

end TelemetryControl.Binary64
