/-
TelemetryControl.Severity — how important a record is.

Five severities in a line from `trace` to `error`. A severity is also a
threshold: a record passes when its severity is at least the threshold, so
the lesser of two thresholds lets more records through. Level texts are
read with blanks trimmed and letters of either case.
-/
import TelemetryControl.Fault
import TelemetryControl.Text.Ascii
import TelemetryControl.Text.Blank

namespace TelemetryControl

/-- The importance of a log record. -/
inductive Severity where
  | trace
  | debug
  | info
  | warn
  | error
deriving DecidableEq, Repr, Inhabited

namespace Severity

/-- Every severity, the least important first. -/
def all : List Severity := [trace, debug, info, warn, error]

/-- The place in the order. -/
def rank : Severity → Nat
  | trace => 0
  | debug => 1
  | info => 2
  | warn => 3
  | error => 4

instance : LE Severity := ⟨fun s t => s.rank ≤ t.rank⟩

instance : LT Severity := ⟨fun s t => s.rank < t.rank⟩

instance (s t : Severity) : Decidable (s ≤ t) := inferInstanceAs (Decidable (s.rank ≤ t.rank))

instance (s t : Severity) : Decidable (s < t) := inferInstanceAs (Decidable (s.rank < t.rank))

/-- The more verbose of two thresholds. -/
instance : Min Severity := ⟨fun s t => if s ≤ t then s else t⟩

theorem le_refl (s : Severity) : s ≤ s := Nat.le_refl s.rank

theorem le_trans {s t u : Severity} (h : s ≤ t) (h' : t ≤ u) : s ≤ u := Nat.le_trans h h'

/-- A record passes the lesser of two thresholds when it passes either. -/
theorem min_le_iff (s t u : Severity) : min s t ≤ u ↔ s ≤ u ∨ t ≤ u := by
  cases s <;> cases t <;> cases u <;> decide

/-- The name of a severity. -/
def name : Severity → String
  | trace => "TRACE"
  | debug => "DEBUG"
  | info => "INFO"
  | warn => "WARN"
  | error => "ERROR"

/-- The capitalised word that stands for a severity inside shown values. -/
def word : Severity → String
  | trace => "Trace"
  | debug => "Debug"
  | info => "Info"
  | warn => "Warn"
  | error => "Error"

/-- An optional level as a shown value. -/
def shown : Option Severity → String
  | none => "None"
  | some s => "Some(" ++ s.word ++ ")"

/-- The severity that a text names: blanks at its ends and the case of its
letters do not matter. -/
def ofText? (text : String) : Option Severity :=
  all.find? (fun s => Text.sameLetters s.name (Text.trim text))

/-- Reads a level text; the fault keeps the text as it was given. -/
def parse (text : String) : Except Fault Severity :=
  match ofText? text with
  | some s => .ok s
  | none => .error (.unknownSeverity text)

end Severity

end TelemetryControl
