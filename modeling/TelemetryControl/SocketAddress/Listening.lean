/-
TelemetryControl.SocketAddress.Listening — addresses that a process may listen on.

The text of such an address is a socket address, or a host and a port after
the last colon. A process may listen on every address of this machine: on
none in particular, on the loopback addresses of version 4, and, as the
system does not tell them from its own, on addresses of groups in version 4.
-/
import TelemetryControl.SocketAddress.Lookup

namespace TelemetryControl

/-- Why a process cannot listen somewhere. -/
inductive ListenFault where
  /-- There is no port in the text. -/
  | badAddress
  | badPort
  | lookup (fault : SocketAddress.LookupFault)
  /-- The address is none of this machine's. -/
  | notAvailable
  /-- The address is one that nobody can listen on. -/
  | notListenable
  /-- The scope of the address is no network interface. -/
  | noDevice
deriving DecidableEq, Repr

/-- The fields of a shown fault that has no number. -/
def plainFault (message : String) : String :=
  "Error \x7b kind: InvalidInput, message: \"" ++ message ++ "\" \x7d"

/-- The fields of a shown fault in looking up a host. -/
def lookupFault (message : String) : String :=
  "Custom \x7b kind: Uncategorized, error: \"failed to lookup address information: " ++ message ++
    "\" \x7d"

/-- The fields of a shown fault with the system's number. -/
def systemFault (number : Nat) (kind message : String) : String :=
  "Os \x7b code: " ++ toString number ++ ", kind: " ++ kind ++ ", message: \"" ++ message ++
    "\" \x7d"

/-- The fields of a fault as a shown value. -/
def ListenFault.shown : ListenFault → String
  | .badAddress => plainFault "invalid socket address"
  | .badPort => plainFault "invalid port value"
  | .lookup .ended => plainFault "file name contained an unexpected NUL byte"
  | .lookup .noName => lookupFault "Name or service not known"
  | .lookup .unanswered => lookupFault "Temporary failure in name resolution"
  | .notAvailable => systemFault 99 "AddrNotAvailable" "Cannot assign requested address"
  | .notListenable => systemFault 22 "InvalidInput" "Invalid argument"
  | .noDevice => systemFault 19 "Uncategorized" "No such device"

namespace SocketAddress

/-- A port, perhaps with a plus sign. -/
def signedPort? : List Char → Option Nat
  | '+' :: digits => port? digits
  | digits => port? digits

/-- The socket address that a text names, by address or by host name. -/
def ofText (text : String) : Except ListenFault SocketAddress :=
  match parse? text with
  | some a => .ok a
  | none =>
    let cs := text.toList
    let port := (cs.reverse.takeWhile (· != ':')).reverse
    if port.length = cs.length then .error .badAddress
    else
      match signedPort? port with
      | none => .error .badPort
      | some p => (ofHost (cs.take (cs.length - port.length - 1)) p).mapError .lookup

/-- Whether the octets of an address are those of this machine, of a group or of
all machines. -/
def isListenable (octets : List Nat) : Bool :=
  octets == [0, 0, 0, 0] || octets == [255, 255, 255, 255] ||
    octets.head?.any (fun o => o == 127 || (224 ≤ o && o < 240))

/-- What keeps a process from listening on an address, if anything does. -/
def obstacle? : SocketAddress → Option ListenFault
  | version4 octets _ => if isListenable octets then none else some .notAvailable
  | version6 [0, 0, 0, 0, 0, 0xFFFF, a, b] _ _ =>
    if isListenable [a / 256, a % 256, b / 256, b % 256] then none else some .notAvailable
  | version6 pieces scope _ =>
    if pieces.all (· == 0) then none
    else if pieces.head?.any (0xFF00 ≤ ·) then some .notListenable
    else if isOnLink pieces && scope == 0 then some .notListenable
    else if isOnLink pieces && scope != 1 then some .noDevice
    else some .notAvailable

/-- The socket address to listen on that a text names. -/
def toListen (text : String) : Except ListenFault SocketAddress :=
  match ofText text with
  | .error f => .error f
  | .ok a =>
    match a.obstacle? with
    | none => .ok a
    | some f => .error f

end SocketAddress

end TelemetryControl
