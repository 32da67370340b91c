/-
TelemetryControl.Event — log events of the agent itself.

An event has a level, the module it comes from, a message and fields in a
fixed order. The same event is written in three ways: bare for a session
log, with texts between quotes on the console, and as a JSON object in the
export stream. This module holds the events and the first two ways.
-/
import TelemetryControl.Severity
import TelemetryControl.Text.Quoted

namespace TelemetryControl

/-- The value of an event's field. -/
inductive FieldValue where
  /-- A text that is the field's value. -/
  | text (s : String)
  /-- The shown form of some other value. -/
  | shown (s : String)
  /-- A count. -/
  | count (n : Nat)
  /-- A double. -/
  | number (x : Binary64)
deriving DecidableEq, Repr

/-- A log event. -/
structure Event where
  level : Severity
  /-- The module that emits the event. -/
  target : String
  message : String
  fields : List (String × FieldValue)
deriving DecidableEq, Repr

namespace FieldValue

/-- The value as it stands in a session log. -/
def bare : FieldValue → String
  | text s => s
  | shown s => s
  | count n => toString n
  | number x => Layout.field.write x

/-- The value as it stands on the console. -/
def quoted : FieldValue → String
  | text s => Text.Quoted.quote s
  | v => v.bare

end FieldValue

namespace Event

/-- The fields of an event, each after a space. -/
def fieldsText (write : FieldValue → String) (e : Event) : String :=
  String.join (e.fields.map (fun f => " " ++ f.1 ++ "=" ++ write f.2))

/-- The line of an event in a session log. -/
def line (e : Event) : String :=
  e.level.name ++ " " ++ e.message ++ e.fieldsText FieldValue.bare

/-- The line of an event on the console, without its time. -/
def consoleLine (e : Event) : String :=
  e.level.name ++ " " ++ e.target ++ ": " ++ e.message ++ e.fieldsText FieldValue.quoted

end Event

end TelemetryControl
