/-
TelemetryControl.Proofs.Json.Numeral — numbers in JSON, read back.

A number has no closing mark: the reader goes on as long as octets of a number
come. So each part of a numeral is read back under a condition on what
follows it, and after the last part it is enough that no number goes on there
(`Stops`), as behind an item or a member (`IsDelimiter.stops_cons`).
-/
import TelemetryControl.Json.Reader
import TelemetryControl.Proofs.Number.Numeral
import TelemetryControl.Proofs.Text.Octets

namespace TelemetryControl.Json

open TelemetryControl.Text (octet digit? encode)
open TelemetryControl.Numeral (digitChar digitsOf ofDigits)

/-- The octets that end an item or a member. -/
def IsDelimiter (b : UInt8) : Prop :=
  b = octet ',' ∨ b = octet ']' ∨ b = octet '\x7d'

/-- No part of a number goes on there. -/
def Stops (tail : List UInt8) : Prop :=
  ∀ b ∈ tail.head?, (digit? b = none ∧ b ≠ octet '.') ∧ ¬ (b = octet 'e' ∨ b = octet 'E')

theorem stops_nil : Stops [] := by simp [Stops]

theorem IsDelimiter.stops_cons {c : UInt8} (h : IsDelimiter c) (rest : List UInt8) :
    Stops (c :: rest) := by
  intro b hb
  obtain rfl : c = b := by simpa using hb
  rcases h with rfl | rfl | rfl <;> decide

/-! ## 1. Runs of digits -/

theorem digit?_digitChar {d : Nat} (h : d < 10) : digit? (octet (digitChar d)) = some d := by
  have all : ∀ e ∈ List.range 10, digit? (octet (digitChar e)) = some e := by decide
  exact all d (List.mem_range.mpr h)

theorem encode_digitChar {d : Nat} (h : d < 10) :
    String.utf8EncodeChar (digitChar d) = [octet (digitChar d)] := by
  have all : ∀ e ∈ List.range 10, (digitChar e).toNat < 0x80 := by decide
  exact Text.utf8EncodeChar_of_ascii (all d (List.mem_range.mpr h))

theorem encode_digits_cons {d : Nat} (h : d < 10) (ds : List Nat) :
    encode ((d :: ds).map digitChar) = octet (digitChar d) :: encode (ds.map digitChar) := by
  rw [List.map_cons, Text.encode_cons, encode_digitChar h, List.singleton_append]

/-- A run of digits is read up to the first octet that is none. -/
theorem digits_encode {ds : List Nat} (small : ∀ d ∈ ds, d < 10) {tail : List UInt8}
    (stop : ∀ b ∈ tail.head?, digit? b = none) :
    digits (encode (ds.map digitChar) ++ tail) = (ds, tail) := by
  induction ds with
  | nil =>
    cases tail with
    | nil => rfl
    | cons b rest => simp [digits, stop b rfl]
  | cons d ds ih =>
    have first : d < 10 := small d List.mem_cons_self
    rw [encode_digits_cons first, List.cons_append, digits,
      ih (fun e he => small e (List.mem_cons_of_mem _ he))]
    simp [digit?_digitChar first]

/-! ## 2. The parts of a numeral -/

/-- The characters of a point and the digits after it. -/
def fractionChars (fraction : List Nat) : List Char :=
  if fraction.isEmpty then [] else '.' :: fraction.map digitChar

/-- The characters of an exponent. -/
def exponentChars (e : Option Int) : List Char :=
  match e with
  | none => []
  | some e => 'e' :: (if e < 0 then '-' else '+') :: (digitsOf e.natAbs).map digitChar

theorem encode_fractionChars (d : Nat) (ds : List Nat) :
    encode (fractionChars (d :: ds)) = octet '.' :: encode ((d :: ds).map digitChar) :=
  Text.encode_ascii_cons (by decide) _

theorem encode_exponentChars (e : Int) :
    encode (exponentChars (some e)) =
      octet 'e' :: octet (if e < 0 then '-' else '+') ::
        encode ((digitsOf e.natAbs).map digitChar) := by
  have sign : (if e < 0 then '-' else '+').toNat < 0x80 := by split <;> decide
  rw [exponentChars, Text.encode_ascii_cons (by decide), Text.encode_ascii_cons sign]

variable {n : Numeral}

theorem wholePart_encode (h : n.WellFormed) {tail : List UInt8}
    (stop : ∀ b ∈ tail.head?, digit? b = none) :
    wholePart (encode (n.whole.map digitChar) ++ tail) = some (n.whole, tail) := by
  obtain ⟨d, rest, whole, leading⟩ := h.leading
  rw [wholePart, digits_encode h.wholeDigits stop, whole]
  cases d with
  | zero => simp [leading rfl]
  | succ d => rfl

theorem fractionPart_encode (h : n.WellFormed) {tail : List UInt8}
    (stop : ∀ b ∈ tail.head?, digit? b = none ∧ b ≠ octet '.') :
    fractionPart (encode (fractionChars n.fraction) ++ tail) = some (n.fraction, tail) := by
  cases fraction : n.fraction with
  | nil =>
    cases tail with
    | nil => rfl
    | cons b rest => simp [fractionChars, fractionPart, (stop b rfl).2]
  | cons d ds =>
    have read := digits_encode (fraction ▸ h.fractionDigits) (fun b hb => (stop b hb).1)
    rw [encode_fractionChars, List.cons_append, fractionPart, if_pos rfl, read]

theorem exponentPart_encode (e : Option Int) {tail : List UInt8} (h : Stops tail) :
    exponentPart (encode (exponentChars e) ++ tail) = some (e, tail) := by
  cases e with
  | none =>
    cases tail with
    | nil => rfl
    | cons b rest => simp [exponentChars, exponentPart, (h b rfl).2]
  | some e =>
    have small : ∀ d ∈ digitsOf e.natAbs, d < 10 := fun _ => Numeral.lt_ten_of_mem_digitsOf
    have read := digits_encode small (fun b hb => (h b hb).1.1)
    have value := Numeral.ofDigits_digitsOf e.natAbs
    obtain ⟨d, rest, digits, -⟩ := Numeral.exists_digitsOf_eq_cons e.natAbs
    rw [digits] at read value
    rw [encode_exponentChars, List.cons_append, List.cons_append, exponentPart, if_pos (.inl rfl),
      digits]
    by_cases negative : e < 0
    · have same : -(e.natAbs : Int) = e := by omega
      simp only [negative, if_true, read, value, same]
    · have same : (e.natAbs : Int) = e := by omega
      simp +decide only [negative, if_false, if_true, read, value, same]

/-- Digits and point do not go on where an exponent may stand. -/
theorem stops_exponent (e : Option Int) {tail : List UInt8} (h : Stops tail) :
    ∀ b ∈ (encode (exponentChars e) ++ tail).head?, digit? b = none ∧ b ≠ octet '.' := by
  intro b hb
  cases e with
  | none => exact (h b hb).1
  | some e =>
    rw [encode_exponentChars, List.cons_append, List.head?_cons, Option.mem_some_iff] at hb
    subst hb
    decide

/-- Digits do not go on where a fraction may stand. -/
theorem stops_fraction (fraction : List Nat) {tail : List UInt8}
    (h : ∀ b ∈ tail.head?, digit? b = none) :
    ∀ b ∈ (encode (fractionChars fraction) ++ tail).head?, digit? b = none := by
  intro b hb
  cases fraction with
  | nil => exact h b hb
  | cons d ds =>
    rw [encode_fractionChars, List.cons_append, List.head?_cons, Option.mem_some_iff] at hb
    subst hb
    decide

theorem chars_eq (n : Numeral) :
    n.chars .always = (if n.negative then ['-'] else []) ++ (n.whole.map digitChar ++
      (fractionChars n.fraction ++ exponentChars n.exponent)) := by
  unfold Numeral.chars fractionChars exponentChars
  cases n.exponent with
  | none => simp
  | some e => by_cases negative : e < 0 <;> simp [negative]

/-- The digits before the point start with one. -/
theorem exists_encode_whole_eq_cons (h : n.WellFormed) :
    ∃ d < 10, ∃ rest, encode (n.whole.map digitChar) = octet (digitChar d) :: rest := by
  obtain ⟨d, rest, whole, -⟩ := h.leading
  have first : d < 10 := h.wholeDigits d (whole ▸ List.mem_cons_self)
  exact ⟨d, first, _, by rw [whole, encode_digits_cons first]⟩

/-- **A well-formed numeral is read back**, and what follows it is left. -/
theorem numeral_encode (h : n.WellFormed) {tail : List UInt8} (stops : Stops tail) :
    numeral (encode (n.chars .always) ++ tail) = some (n, tail) := by
  have stopExponent := stops_exponent n.exponent stops
  have stopFraction := stops_fraction n.fraction (fun b hb => (stopExponent b hb).1)
  have whole := wholePart_encode h stopFraction
  have fraction := fractionPart_encode h stopExponent
  have exponent := exponentPart_encode n.exponent stops
  rw [chars_eq]
  simp only [Text.encode_append, List.append_assoc]
  cases negative : n.negative with
  | true =>
    have minus : encode ['-'] = [octet '-'] := by decide
    simp only [if_true, minus, List.singleton_append, numeral, whole, fraction, exponent,
      Option.bind_eq_bind, Option.bind_some, Option.pure_def]
    rw [← negative]
  | false =>
    -- The first octet is that of a digit, so it is not taken for a sign.
    obtain ⟨d, first, rest, shape⟩ := exists_encode_whole_eq_cons h
    have noSign : octet (digitChar d) ≠ octet '-' := fun same => by
      have digit := digit?_digitChar first
      rw [same] at digit
      cases digit
    rw [shape] at whole ⊢
    simp only [List.cons_append] at whole ⊢
    simp only [Bool.false_eq_true, if_false, Text.encode_nil, List.nil_append, numeral, noSign,
      whole, fraction, exponent, Option.bind_eq_bind, Option.bind_some, Option.pure_def]
    rw [← negative]

end TelemetryControl.Json
