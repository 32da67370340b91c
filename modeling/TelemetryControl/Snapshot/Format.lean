/-
TelemetryControl.Snapshot.Format — how payloads hold snapshots.

A payload is JSON or TOML, and it is either one snapshot or a table from
services to snapshots. For a file the extension picks the format: TOML for
`.toml` in any case, JSON for all else.
-/
import TelemetryControl.FilePath
import TelemetryControl.Text.Ascii

namespace TelemetryControl

/-- The encoding of a payload. -/
inductive PayloadFormat where
  | json
  | toml
deriving DecidableEq, Repr

/-- What a payload holds. -/
inductive PayloadLayout where
  /-- One snapshot. -/
  | single
  /-- A table from services to their snapshots. -/
  | perService
deriving DecidableEq, Repr

namespace PayloadFormat

/-- The format of a file. -/
def ofPath (path : String) : PayloadFormat :=
  if (FilePath.extension? path).any (Text.sameLetters "toml") then .toml else .json

def name : PayloadFormat → String
  | json => "json"
  | toml => "toml"

end PayloadFormat

def PayloadLayout.name : PayloadLayout → String
  | .single => "single"
  | .perService => "per_service"

end TelemetryControl
