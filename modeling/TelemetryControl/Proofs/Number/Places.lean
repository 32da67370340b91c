/-
TelemetryControl.Proofs.Number.Places — numbers by the places of their digits.

Digits in a base, the most significant first, stand for the sum of their
values, each times the power of the base that its place has. One run of digits
after another moves the first up by the length of the second
(`value_append`), and digits below the base stay below the next power
(`value_lt`), so a digit is found again by dividing (`value_div_mod`).
-/
import Mathlib.Data.Nat.Digits.Lemmas
import Mathlib.Tactic.Ring

namespace TelemetryControl.Places

variable {base : Nat}

/-- The number that digits stand for, the most significant first. -/
def value (base : Nat) (ds : List Nat) : Nat :=
  Nat.ofDigits base ds.reverse

@[simp] theorem value_singleton (d : Nat) : value base [d] = d :=
  Nat.ofDigits_singleton

theorem value_append (ds es : List Nat) :
    value base (ds ++ es) = value base ds * base ^ es.length + value base es := by
  rw [value, List.reverse_append, Nat.ofDigits_append, List.length_reverse, value, value]
  ring

theorem value_cons (d : Nat) (ds : List Nat) :
    value base (d :: ds) = d * base ^ ds.length + value base ds := by
  rw [← List.singleton_append, value_append, value_singleton]

theorem value_concat (ds : List Nat) (d : Nat) :
    value base (ds ++ [d]) = base * value base ds + d := by
  rw [value_append, value_singleton, List.length_singleton, Nat.pow_one, Nat.mul_comm]

theorem value_lt {ds : List Nat} (two : 1 < base) (small : ∀ d ∈ ds, d < base) :
    value base ds < base ^ ds.length := by
  have reversed : ∀ d ∈ ds.reverse, d < base := fun d member =>
    small d (List.mem_reverse.mp member)
  simpa [value] using Nat.ofDigits_lt_base_pow_length two reversed

/-- Going through digits from the left gives their number. -/
theorem foldl_eq (ds : List Nat) : ds.foldl (fun n d => base * n + d) 0 = value base ds := by
  induction ds using List.reverseRecOn with
  | nil => rfl
  | append_singleton ds d ih => rw [List.foldl_concat, ih, value_concat]

/-- What stands at a place is found again by dividing. -/
theorem value_div_mod {front back : List Nat} {d : Nat} (two : 1 < base) (digit : d < base)
    (small : ∀ e ∈ back, e < base) :
    value base (front ++ d :: back) / base ^ back.length % base = d := by
  have split : value base (front ++ d :: back) =
      base ^ back.length * (base * value base front + d) + value base back := by
    rw [List.append_cons, value_append, value_concat, Nat.mul_comm]
  rw [split, Nat.mul_add_div (Nat.pow_pos (Nat.zero_lt_of_lt digit)),
    Nat.div_eq_of_lt (value_lt two small), Nat.add_zero, Nat.mul_add_mod, Nat.mod_eq_of_lt digit]

end TelemetryControl.Places
