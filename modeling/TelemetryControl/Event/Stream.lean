/-
TelemetryControl.Event.Stream — events as the stream for export has them.

An event is one JSON object with the fields, the message among them, the
level and the target. Counts and numbers stay numbers, all else is text,
and the fields stand in ascending order of their names. In the file each
event is a line of its own that starts with a time.
-/
import TelemetryControl.Event
import TelemetryControl.Json
import TelemetryControl.NameTable

namespace TelemetryControl

/-- The value of a field in the stream. -/
def FieldValue.toJson : FieldValue → Json
  | text s => .str s
  | shown s => .str s
  | count n => .nat n
  | number x => .real x

/-- The fields of an event and its message, by their names. -/
def Event.members (e : Event) : NameTable FieldValue :=
  NameTable.ofList (e.fields ++ [("message", .text e.message)])

/-- The fields of an event in the stream. -/
def Event.fieldsJson (e : Event) : Json :=
  .record (e.members.toList.map (fun f => (f.1, f.2.toJson)))

/-- The time in the stream. Nothing here depends on when an event happens, so each
bears the same time. -/
def Event.time : String := "1970-01-01T00:00:00.000000Z"

/-- The line of an event in the stream's file. -/
def Event.streamLine (e : Event) : String :=
  (Json.record
    [("timestamp", .str Event.time), ("level", .str e.level.name), ("fields", e.fieldsJson),
     ("target", .str e.target)]).text ++ "\n"

end TelemetryControl
