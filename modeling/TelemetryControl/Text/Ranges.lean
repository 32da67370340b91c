/-
TelemetryControl.Text.Ranges — sets and tables of characters.

What is known of characters is known of whole ranges of their codes. A set
is a list of ranges in ascending order, and a table is a list of runs, each
with the code it starts at and a value for every code from there on.
-/

namespace TelemetryControl.Text

/-- Whether a code lies in one of some ranges in ascending order. -/
def within : List (Nat × Nat) → Nat → Bool
  | [], _ => false
  | (first, last) :: rest, n => if n < first then false else n ≤ last || within rest n

/-- The value of a code in a table of runs in ascending order. -/
def entry? {α : Type} : List (Nat × List α) → Nat → Option α
  | [], _ => none
  | (first, values) :: rest, n =>
    if n < first then none
    else
      match values[n - first]? with
      | some v => some v
      | none => entry? rest n

end TelemetryControl.Text
