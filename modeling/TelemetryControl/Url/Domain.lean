/-
TelemetryControl.Url.Domain — host names in their ASCII form.

A host name is compared and looked up in ASCII, in lower case. Its characters
are folded, which may bring new dots, and composed; its labels are then
written each by itself, and have to agree on which way they run.
-/
import TelemetryControl.Text.Pieces
import TelemetryControl.Url.Domain.Direction
import TelemetryControl.Url.Domain.Label

namespace TelemetryControl.Url.Domain

/-- The labels of a host name, if it is one. -/
def labels? (host : List Char) : Option (List Label) :=
  (host.mapM fold?).bind (fun folded =>
    (Text.pieces '.' (Text.composed folded.flatten)).mapM Label.of?)

/-- A host name in ASCII, if it is one. -/
def ascii? (host : List UInt8) : Option (List Char) :=
  (Text.ofOctets? host).bind (fun s =>
    (labels? s.toList).bind (fun labels =>
      if directionsAgree (labels.map (·.shown)) then
        some (Text.join '.' (labels.map (·.written)))
      else none))

end TelemetryControl.Url.Domain
