/-
TelemetryControl.Sampling.TraceId — identifiers of traces.

A trace is identified by 128 bits, written as 32 hexadecimal digits. The
sampler looks only at the lower 64 of them, read as a signed number. A text is
looked through octet by octet before its digits are taken for a number, so
that no sign gets by.
-/
import TelemetryControl.Fault
import TelemetryControl.Number.Unsigned
import TelemetryControl.Text.Ascii

namespace TelemetryControl

/-- A trace identifier. -/
structure TraceId where
  value : BitVec 128
deriving DecidableEq, Repr, Inhabited

namespace TraceId

/-- The identifier that no trace has. -/
def invalid : TraceId := ⟨0⟩

/-- The lower 64 bits as a signed number. -/
def randomPart (t : TraceId) : Int64 :=
  Int64.ofBitVec (t.value.setWidth 64)

/-- The sixteen octets, the most significant first. -/
def octets (t : TraceId) : List UInt8 :=
  (List.range 16).map (fun i => (t.value.toNat / Nat.pow 256 (15 - i)).toUInt8)

/-- The identifier of sixteen octets, the most significant first. -/
def ofOctets (bs : List UInt8) : TraceId :=
  ⟨BitVec.ofNat 128 (bs.foldl (fun n b => 256 * n + b.toNat) 0)⟩

/-- The identifier of a number. -/
def ofNat (n : Nat) : TraceId :=
  ⟨BitVec.ofNat 128 n⟩

/-- How many identifiers there are. -/
def count : Nat := Nat.pow 2 128

/-- Reads exactly 32 hexadecimal digits, letters in either case. -/
def parse (text : String) : Except Fault TraceId :=
  let bs := Text.octets text
  if bs.length = 32 ∧ bs.all Text.isHexOctet = true then
    match Unsigned.ofHex count text.toList with
    | .ok n => .ok (ofNat n)
    | .error f => .error (.parse f.message)
  else .error (.parse ("invalid trace id: " ++ text))

/-- The 32 digits in lower case. -/
def text (t : TraceId) : String :=
  String.ofList (Text.hexDigits 32 t.value.toNat)

end TraceId

end TelemetryControl
