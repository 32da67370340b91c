/-
TelemetryControl.Proofs.Number.Numeral — numerals of decimal digits.

The digits of a natural are below ten, do not start with a zero in front of
others, and have that natural for their value. A numeral of such digits is
well formed (`Numeral.WellFormed`), and every layout writes every double so
(`Layout.wellFormed_numeral`): its digits are those of the shortest decimal,
and that decimal is not zero unless the double is.
-/
import TelemetryControl.Number.Layout
import TelemetryControl.Proofs.Number.Value

namespace TelemetryControl

namespace Numeral

/-! ## 1. Digits of naturals -/

theorem digitsOf_eq (n : Nat) :
    digitsOf n = if n < 10 then [n] else digitsOf (n / 10) ++ [n % 10] := by
  have value {d : Nat} (h : d < 10) : d.digitChar.toNat - 0x30 = d := by
    rw [Nat.toNat_digitChar_of_lt_ten h]
    omega
  unfold digitsOf
  rw [Nat.toDigits_eq_if (by decide)]
  split
  · next small => simp [value small]
  · simp [value (Nat.mod_lt n (by decide))]

theorem lt_ten_of_mem_digitsOf {n d : Nat} (h : d ∈ digitsOf n) : d < 10 := by
  induction n using Nat.strongRecOn with
  | ind n ih =>
    rw [digitsOf_eq] at h
    split at h
    · next small => simpa [List.mem_singleton.mp h] using small
    · rcases List.mem_append.mp h with inFront | last
      · exact ih (n / 10) (by omega) inFront
      · rw [List.mem_singleton.mp last]
        exact Nat.mod_lt n (by decide)

/-- Every natural has digits, and only those of zero start with a zero. -/
theorem exists_digitsOf_eq_cons (n : Nat) :
    ∃ d rest, digitsOf n = d :: rest ∧ (d = 0 → n = 0) := by
  induction n using Nat.strongRecOn with
  | ind n ih =>
    rw [digitsOf_eq]
    split
    · exact ⟨n, [], rfl, id⟩
    · obtain ⟨d, rest, front, leading⟩ := ih (n / 10) (by omega)
      refine ⟨d, rest ++ [n % 10], by rw [front, List.cons_append], fun zero => ?_⟩
      have := leading zero
      omega

@[simp] theorem digitsOf_zero : digitsOf 0 = [0] := by
  rw [digitsOf_eq, if_pos (by decide)]

/-- **The digits of a natural have it for their value.** -/
@[simp] theorem ofDigits_digitsOf (n : Nat) : ofDigits (digitsOf n) = n := by
  induction n using Nat.strongRecOn with
  | ind n ih =>
    rw [digitsOf_eq]
    split
    · simp [ofDigits]
    · have front := ih (n / 10) (by omega)
      unfold ofDigits at front ⊢
      rw [List.foldl_append, front, List.foldl_cons, List.foldl_nil]
      omega

/-! ## 2. Well-formed numerals -/

/-- A numeral of decimal digits, at least one of them before the point, and no
zero in front of others. -/
structure WellFormed (n : Numeral) : Prop where
  wholeDigits : ∀ d ∈ n.whole, d < 10
  fractionDigits : ∀ d ∈ n.fraction, d < 10
  leading : ∃ d rest, n.whole = d :: rest ∧ (d = 0 → rest = [])

theorem WellFormed.zero (negative : Bool) (fraction : List Nat) (h : ∀ d ∈ fraction, d < 10)
    (exponent : Option Int) : WellFormed ⟨negative, [0], fraction, exponent⟩ where
  wholeDigits := by simp
  fractionDigits := h
  leading := ⟨0, [], rfl, fun _ => rfl⟩

end Numeral

open Numeral (digitsOf)

/-- A decimal is written well unless it is a zero moved out of place. -/
theorem Layout.wellFormed_ofDecimal (l : Layout) (negative : Bool) {d : Decimal}
    (inPlace : d.digits = 0 → d.exponent = 0) : (l.ofDecimal negative d).WellFormed := by
  obtain ⟨first, others, digits, leading⟩ := Numeral.exists_digitsOf_eq_cons d.digits
  have small : ∀ e ∈ first :: others, e < 10 := fun e he =>
    Numeral.lt_ten_of_mem_digitsOf (digits ▸ he)
  have alone : first = 0 → others = [] := fun zero => by
    rw [leading zero, Numeral.digitsOf_zero] at digits
    exact (List.cons.inj digits).2.symm
  have zeros (k : Nat) : ∀ e ∈ List.replicate k 0, e < 10 := fun e he => by
    rw [List.eq_of_mem_replicate he]
    decide
  unfold Layout.ofDecimal
  simp only [digits]
  split
  · split
    · -- A whole number: zeros are only put behind digits that are not zero.
      refine ⟨?_, ?_, first, others ++ List.replicate d.exponent.toNat 0, rfl, fun zero => ?_⟩
      · intro e he
        exact (List.mem_append.mp he).elim (small e) (zeros _ e)
      · split <;> simp
      · rw [alone zero, inPlace (leading zero)]
        rfl
    · split
      · refine ⟨fun e he => small e (List.mem_of_mem_take he),
          fun e he => small e (List.mem_of_mem_drop he), first, others.take _,
          List.take_succ_cons, fun zero => by rw [alone zero, List.take_nil]⟩
      · refine Numeral.WellFormed.zero _ _ (fun e he => ?_) _
        exact (List.mem_append.mp he).elim (zeros _ e) (small e)
  · refine ⟨fun e he => small e (List.mem_of_mem_take he),
      fun e he => small e (List.mem_of_mem_drop he), first, [], rfl, fun _ => rfl⟩

namespace Binary64

/-! ## 3. The shortest decimal -/

/-- The interval of a double that is not zero does not reach down to zero. -/
theorem low_pos {x : Binary64} (h : x.isZero = false) : 0 < x.roundingInterval.1 := by
  have nonzero : x.units ≠ 0 := by simpa [isZero] using h
  have step : Nat.pow 2 (x.exponentField - 1) ≤ x.units := by
    cases field : x.exponentField with
    | zero => exact Nat.one_le_iff_ne_zero.mpr nonzero
    | succ e =>
      rw [units_of_exponentField field]
      exact Nat.le_mul_of_pos_left _ (Nat.add_pos_left (by decide) _)
  have positive : 0 < x.units := Nat.pos_of_ne_zero nonzero
  unfold roundingInterval
  simp only
  split <;> omega

/-- A grid point in that interval is not zero. -/
theorem gridHit?_ne_some_zero {x : Binary64} (h : x.isZero = false) (tie : Tie) (grid : Int) :
    x.gridHit? tie grid ≠ some 0 := by
  have positive := low_pos h
  unfold gridHit?
  generalize x.roundingInterval = interval at positive ⊢
  obtain ⟨low, mid, high⟩ := interval
  dsimp -zeta only at positive ⊢
  intro hit
  extract_lets p q closed inside c down up at hit
  -- Zero lies below the interval, and only points inside are returned.
  have scale : 0 < q := by
    simp only [q]
    split
    · exact Nat.one_pos
    · exact Nat.pow_pos (by decide)
  have room : 0 < low * q := Nat.mul_pos positive scale
  have outside : inside 0 = false := by
    simp only [inside, Nat.zero_mul]
    split <;> simp only [decide_eq_false_iff_not] <;> omega
  have notZero {n : Nat} (found : inside n = true) : n ≠ 0 := fun e => by
    rw [e, outside] at found
    cases found
  split at hit
  · next here _ =>
    have below := notZero here
    split at hit
    · exact below (Option.some.inj hit)
    · split at hit
      · exact Nat.succ_ne_zero c (Option.some.inj hit)
      · split at hit
        · exact Nat.succ_ne_zero c (Option.some.inj hit)
        · exact below (Nat.add_eq_zero_iff.mp (Option.some.inj hit)).1
  · next here _ => exact notZero here (Option.some.inj hit)
  · exact Nat.succ_ne_zero c (Option.some.inj hit)
  · cases hit

theorem dropZeros_digits_ne_zero (fuel : Nat) {d : Decimal} (h : d.digits ≠ 0) :
    (dropZeros fuel d).digits ≠ 0 := by
  induction fuel generalizing d with
  | zero => exact h
  | succ fuel ih =>
    unfold dropZeros
    split
    · next divisible => exact ih (by show d.digits / 10 ≠ 0; omega)
    · exact h

theorem shortest_inPlace {x : Binary64} (h : x.isZero = false) (tie : Tie)
    (zero : (x.shortest tie).digits = 0) : (x.shortest tie).exponent = 0 := by
  unfold shortest at zero ⊢
  simp only at zero ⊢
  split at zero
  · next d found =>
    obtain ⟨grid, -, hit⟩ := List.exists_of_findSome?_eq_some found
    obtain ⟨c, hc, rfl⟩ := Option.map_eq_some_iff.mp hit
    refine absurd zero (dropZeros_digits_ne_zero _ (fun (none : c = 0) => ?_))
    exact gridHit?_ne_some_zero h tie grid (none ▸ hc)
  · rfl

end Binary64

/-- **Every double is written as a well-formed numeral.** -/
theorem Layout.wellFormed_numeral (l : Layout) (x : Binary64) : (l.numeral x).WellFormed := by
  unfold Layout.numeral
  split
  · refine Numeral.WellFormed.zero _ _ ?_ _
    split <;> simp
  · next nonzero =>
    exact l.wellFormed_ofDecimal _ (Binary64.shortest_inPlace (by simpa using nonzero) l.tie)

end TelemetryControl
