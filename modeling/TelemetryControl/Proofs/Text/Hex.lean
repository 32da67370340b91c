/-
TelemetryControl.Proofs.Text.Hex — hexadecimal digits by their places.

A digit is one of sixteen characters, in either case, and its value is the
place that it has among them. A run of digits spells the sum of these values,
each times a power of sixteen (`hexValue`). The reader that goes from the
left and the writer that goes from the right both come down to that sum
(`takeDigits_of_digits`, `hexDigits_hexValue`), and the octets of a text are
digits exactly when its characters are (`all_isHexOctet_iff`).
-/
import TelemetryControl.Number.Unsigned
import TelemetryControl.Proofs.Number.Places
import TelemetryControl.Proofs.Text.Octets

namespace TelemetryControl.Text

/-! ## 1. One digit -/

/-- The digits in ascending order, letters in lower case. -/
def hexAlphabet : List Char :=
  ['0', '1', '2', '3', '4', '5', '6', '7', '8', '9', 'a', 'b', 'c', 'd', 'e', 'f']

/-- A character is a digit in lower or in upper case. -/
def IsHexDigit (c : Char) : Prop :=
  c.toLower ∈ hexAlphabet

instance (c : Char) : Decidable (IsHexDigit c) :=
  inferInstanceAs (Decidable (c.toLower ∈ hexAlphabet))

/-- The value of a digit is its place among the digits. -/
def digitValue (c : Char) : Nat :=
  hexAlphabet.idxOf c.toLower

/-- Only ASCII letters have another case. -/
theorem toLower_of_not_ascii {c : Char} (beyond : ¬ c.toNat < 0x80) : c.toLower = c := by
  have notUpper : ¬ (c.val ≥ 'A'.val ∧ c.val ≤ 'Z'.val) := by
    rintro ⟨-, upper⟩
    have upper : c.toNat ≤ 'Z'.toNat := UInt32.le_iff_toNat_le.mp upper
    exact beyond (Nat.lt_of_le_of_lt upper (by decide))
  exact dif_neg notUpper

theorem IsHexDigit.lt {c : Char} (digit : IsHexDigit c) : c.toNat < 0x80 := by
  by_contra beyond
  have all : hexAlphabet.all (fun d => decide (d.toNat < 0x80)) = true := by decide
  rw [IsHexDigit, toLower_of_not_ascii beyond] at digit
  exact beyond (of_decide_eq_true (List.all_eq_true.mp all c digit))

theorem IsHexDigit.digitValue_lt {c : Char} (digit : IsHexDigit c) : digitValue c < 16 :=
  List.idxOf_lt_length_of_mem digit

/-- A character is read as a digit exactly if it is one. -/
theorem hexDigit?_eq_ite (c : Char) :
    hexDigit? c = if IsHexDigit c then some (digitValue c) else none := by
  by_cases ascii : c.toNat < 0x80
  · have all : ∀ n ∈ List.range 0x80, hexDigit? (Char.ofNat n) =
        if IsHexDigit (Char.ofNat n) then some (digitValue (Char.ofNat n)) else none := by
      decide +kernel
    simpa using all c.toNat (List.mem_range.mpr ascii)
  · rw [if_neg (fun digit => ascii digit.lt)]
    simp [hexDigit?, show ¬ c.toNat ≤ 0x39 by omega, show ¬ c.toNat ≤ 0x66 by omega,
      show ¬ c.toNat ≤ 0x46 by omega]

/-- The lower-case digit of a value is the one at that place. -/
theorem hexChar_digitValue {c : Char} (digit : IsHexDigit c) :
    hexChar (digitValue c) = c.toLower := by
  have all : hexAlphabet.all (fun d => hexChar (hexAlphabet.idxOf d) == d) = true := by decide
  exact beq_iff_eq.mp (List.all_eq_true.mp all c.toLower digit)

theorem isHexDigit_hexChar {d : Nat} (small : d < 16) : IsHexDigit (hexChar d) := by
  have all : ∀ e ∈ List.range 16, IsHexDigit (hexChar e) := by decide
  exact all d (List.mem_range.mpr small)

theorem digitValue_hexChar {d : Nat} (small : d < 16) : digitValue (hexChar d) = d := by
  have all : ∀ e ∈ List.range 16, digitValue (hexChar e) = e := by decide
  exact all d (List.mem_range.mpr small)

/-! ## 2. Digits by their places -/

/-- The number that digits spell, the most significant first. -/
def hexValue (cs : List Char) : Nat :=
  Places.value 16 (cs.map digitValue)

@[simp] theorem hexValue_nil : hexValue [] = 0 := rfl

theorem hexValue_append (cs ds : List Char) :
    hexValue (cs ++ ds) = hexValue cs * 16 ^ ds.length + hexValue ds := by
  rw [hexValue, List.map_append, Places.value_append, List.length_map, hexValue, hexValue]

theorem hexValue_cons (c : Char) (cs : List Char) :
    hexValue (c :: cs) = digitValue c * 16 ^ cs.length + hexValue cs := by
  rw [hexValue, List.map_cons, Places.value_cons, List.length_map, hexValue]

theorem hexValue_concat (cs : List Char) (c : Char) :
    hexValue (cs ++ [c]) = 16 * hexValue cs + digitValue c := by
  rw [hexValue, List.map_append, List.map_singleton, Places.value_concat, hexValue]

theorem hexValue_lt {cs : List Char} (digits : ∀ c ∈ cs, IsHexDigit c) :
    hexValue cs < 16 ^ cs.length := by
  have small : ∀ d ∈ cs.map digitValue, d < 16 := by
    intro d member
    obtain ⟨c, inside, rfl⟩ := List.mem_map.mp member
    exact (digits c inside).digitValue_lt
  simpa [hexValue] using Places.value_lt (by decide) small

/-! ## 3. Writing -/

@[simp] theorem length_hexDigits (width n : Nat) : (hexDigits width n).length = width := by
  induction width generalizing n with
  | zero => rfl
  | succ width ih => simp [hexDigits, ih]

theorem isHexDigit_of_mem_hexDigits {width n : Nat} {c : Char} (member : c ∈ hexDigits width n) :
    IsHexDigit c := by
  induction width generalizing n with
  | zero => cases member
  | succ width ih =>
    rcases List.mem_append.mp member with inFront | last
    · exact ih inFront
    · rw [List.mem_singleton.mp last]
      exact isHexDigit_hexChar (Nat.mod_lt n (by decide))

/-- The digits of a number spell it again, as far as the width goes. -/
theorem hexValue_hexDigits (width n : Nat) : hexValue (hexDigits width n) = n % 16 ^ width := by
  induction width generalizing n with
  | zero => rw [hexDigits, hexValue_nil, Nat.pow_zero, Nat.mod_one]
  | succ width ih =>
    rw [hexDigits, hexValue_concat, ih, digitValue_hexChar (Nat.mod_lt n (by decide)), Nat.pow_succ,
      Nat.mul_comm (16 ^ width), Nat.mod_mul]
    omega

/-- Digits are written again as they were, in lower case. -/
theorem hexDigits_hexValue {cs : List Char} (digits : ∀ c ∈ cs, IsHexDigit c) :
    hexDigits cs.length (hexValue cs) = cs.map Char.toLower := by
  induction cs using List.reverseRecOn with
  | nil => rfl
  | append_singleton cs c ih =>
    have last : IsHexDigit c := digits c (by simp)
    have small : digitValue c < 16 := last.digitValue_lt
    have front : (16 * hexValue cs + digitValue c) / 16 = hexValue cs := by omega
    have unit : (16 * hexValue cs + digitValue c) % 16 = digitValue c := by omega
    rw [List.length_append, List.length_singleton, hexDigits, hexValue_concat, front, unit,
      ih (fun d member => digits d (List.mem_append_left _ member)), hexChar_digitValue last,
      List.map_append, List.map_singleton]

/-! ## 4. Reading -/

/-- Digits that stay below the bound are all taken in. -/
theorem takeDigits_of_digits {bound n : Nat} {cs : List Char} (digits : ∀ c ∈ cs, IsHexDigit c)
    (fits : n * 16 ^ cs.length + hexValue cs < bound) :
    Unsigned.takeDigits bound n cs = .ok (n * 16 ^ cs.length + hexValue cs) := by
  induction cs generalizing n with
  | nil => simp [Unsigned.takeDigits]
  | cons c rest ih =>
    have first : IsHexDigit c := digits c List.mem_cons_self
    -- One more digit moves those before it up by one place.
    have moved : n * 16 ^ (c :: rest).length + hexValue (c :: rest) =
        (16 * n + digitValue c) * 16 ^ rest.length + hexValue rest := by
      rw [hexValue_cons, List.length_cons, Nat.pow_succ]
      ring
    rw [moved] at fits ⊢
    have below : 16 * n + digitValue c < bound :=
      calc 16 * n + digitValue c
          ≤ (16 * n + digitValue c) * 16 ^ rest.length :=
            Nat.le_mul_of_pos_right _ (Nat.pow_pos (by decide))
        _ ≤ (16 * n + digitValue c) * 16 ^ rest.length + hexValue rest := Nat.le_add_right _ _
        _ < bound := fits
    simp only [Unsigned.takeDigits, hexDigit?_eq_ite, if_pos first, if_pos below]
    exact ih (fun d member => digits d (List.mem_cons_of_mem _ member)) fits

/-- **Digits are read as the number they spell**, if there are any and the bound is
not reached. -/
theorem ofHex_of_digits {bound : Nat} {cs : List Char} (given : cs ≠ [])
    (digits : ∀ c ∈ cs, IsHexDigit c) (fits : hexValue cs < bound) :
    Unsigned.ofHex bound cs = .ok (hexValue cs) := by
  have taken : Unsigned.takeDigits bound 0 cs = .ok (hexValue cs) := by
    simpa using takeDigits_of_digits (n := 0) digits (by simpa using fits)
  unfold Unsigned.ofHex
  split
  · exact absurd rfl given
  · next c rest =>
    have sign : IsHexDigit '+' := digits '+' List.mem_cons_self
    exact absurd sign (by decide)
  · exact taken

/-! ## 5. Octets -/

theorem isHexOctet_octet {c : Char} (ascii : c.toNat < 0x80) :
    isHexOctet (octet c) = decide (IsHexDigit c) := by
  rw [isHexOctet, toNat_octet ascii, Char.ofNat_toNat, hexDigit?_eq_ite]
  split <;> simp_all

theorem lt_of_isHexOctet {b : UInt8} (digit : isHexOctet b = true) : b < 0x80 := by
  have valid : b.toNat.isValidChar := .inl (Nat.lt_trans b.toNat_lt (by decide))
  have isDigit : IsHexDigit (Char.ofNat b.toNat) := by
    by_contra notDigit
    rw [isHexOctet, hexDigit?_eq_ite, if_neg notDigit] at digit
    cases digit
  have below := isDigit.lt
  rw [Char.ofNat, dif_pos valid] at below
  exact UInt8.lt_iff_toNat_lt.mpr below

/-- **All octets are digits exactly when all characters are.** -/
theorem all_isHexOctet_iff {cs : List Char} :
    (encode cs).all isHexOctet = true ↔ ∀ c ∈ cs, IsHexDigit c := by
  rw [List.all_eq_true, forall_mem_encode_iff (fun b => lt_of_isHexOctet)]
  refine forall₂_congr fun c _ => ⟨fun h => ?_, fun digit => ⟨digit.lt, ?_⟩⟩
  · simpa [isHexOctet_octet h.1] using h.2
  · simpa [isHexOctet_octet digit.lt] using digit

end TelemetryControl.Text
