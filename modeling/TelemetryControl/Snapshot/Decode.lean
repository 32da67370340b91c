/-
TelemetryControl.Snapshot.Decode — snapshots out of payloads.

A payload of nothing but space is the snapshot that asks for nothing. Any
other payload must be one document of its format, and every snapshot in it
must have the right shape; fields that a snapshot does not have are passed
over. In a table of services a service that is not named asks for nothing.
-/
import TelemetryControl.Json.Reader
import TelemetryControl.Notice
import TelemetryControl.Snapshot.Format
import TelemetryControl.Toml.Reader

namespace TelemetryControl

/-- What a payload gives: a snapshot, and perhaps a notice. -/
structure Decoded where
  snapshot : Snapshot
  notices : List Notice
deriving Repr

/-- An entry with both of its fields. -/
def LevelEntry.ofDocument? (strictness : Strictness) (d : Document) : Option LevelEntry := do
  match ← d.fields? strictness ["logger", "level"] with
  | [logger, level] =>
    some ⟨← Document.required Document.text? logger, ← Document.required Document.text? level⟩
  | _ => none

namespace Snapshot

/-- A list of entries, empty when null or missing. -/
def entries? (strictness : Strictness) (d : Option Document) : Option (List LevelEntry) :=
  Document.orDefault []
    (fun d => (Document.optional? (Document.list? (LevelEntry.ofDocument? strictness)) d).map
      (·.getD [])) d

/-- The snapshot of a document. -/
def ofDocument? (strictness : Strictness) (d : Document) : Option Snapshot := do
  match ← d.fields? strictness
      ["logLevels", "samplingLogLevels", "sampleRatio", "availableLoggers"] with
  | [levels, sampling, ratio, available] =>
    some {
      logLevels := ← entries? strictness levels
      samplingLogLevels := ← entries? strictness sampling
      sampleRatio := ← Document.orDefault none (Document.optional? Document.real?) ratio
      availableLoggers :=
        ← Document.orDefault none
          (Document.optional? (Document.table? Document.severity?)) available }
  | _ => none

/-- The document of a payload. -/
def document? (format : PayloadFormat) (payload : List UInt8) : Option Document :=
  match format with
  | .json => (Json.parse? payload).map Document.ofJson
  | .toml => (Text.ofOctets? payload).bind Toml.parse?

/-- JSON is read strictly, TOML is not. -/
def strictness : PayloadFormat → Strictness
  | .json => .strict
  | .toml => .lenient

/-- The fault of a payload that is no document of its format, or whose document
is no snapshot. A parser would say what it met and where; here one text for each
format stands for all that it may say, so two faults of this kind are equal as
soon as the formats are. -/
def malformed (format : PayloadFormat) : Fault :=
  .parse ("payload is not a snapshot in " ++ format.name)

/-- The snapshot of a payload that holds one. -/
def parse (format : PayloadFormat) (payload : List UInt8) : Except Fault Snapshot :=
  if payload.all Text.isAsciiSpace then .ok .empty
  else
    match (document? format payload).bind (ofDocument? (strictness format)) with
    | some s => .ok s
    | none => .error (malformed format)

/-- The snapshot of one service in a payload that holds a table of them. -/
def parseForService (format : PayloadFormat) (service : String) (payload : List UInt8) :
    Except Fault Decoded :=
  if payload.all Text.isAsciiSpace then .ok ⟨.empty, []⟩
  else
    match (document? format payload).bind (Document.table? (ofDocument? (strictness format))) with
    | some services =>
      match services.get? service with
      | some s => .ok ⟨s, []⟩
      | none => .ok ⟨.empty, [.serviceMissing service services.size]⟩
    | none => .error (malformed format)

/-- The snapshot of a service in a payload of either layout. -/
def decode (format : PayloadFormat) (layout : PayloadLayout) (service : String)
    (payload : List UInt8) : Except Fault Decoded :=
  match layout with
  | .single => (parse format payload).map (⟨·, []⟩)
  | .perService => parseForService format service payload

end Snapshot

end TelemetryControl
