/-
TelemetryControl.Shutdown — telling every task to stop.

A shutdown sends signals to its subscribers. Only the newest signal is kept,
so a subscriber that fell behind first learns how many it has lost and then
receives the newest one. Releasing the shutdown ends it: subscribers still
receive what is waiting and are then told that it is closed.
-/
import TelemetryControl.NameTable

namespace TelemetryControl

/-- A shutdown and the subscribers it has. -/
structure Shutdown where
  released : Bool
  /-- How many signals were sent. -/
  sent : Nat
  /-- Each subscriber with the number of signals it has seen or lost. -/
  seen : NameTable Nat
deriving Repr, Inhabited

/-- What a subscriber finds without waiting. -/
inductive Receipt where
  | signal
  | empty
  | closed
  /-- So many signals were overwritten. -/
  | lagged (lost : Nat)
  | noSubscriber
deriving DecidableEq, Repr

/-- Whether a subscriber that waits for the signal waits no longer: it is there,
some of it was overwritten, or none will come any more. -/
def Receipt.endsWait : Receipt → Bool
  | signal | closed | lagged _ => true
  | empty | noSubscriber => false

/-- The word for a receipt. -/
def Receipt.text : Receipt → String
  | signal => "signal"
  | empty => "empty"
  | closed => "closed"
  | lagged n => "lagged " ++ toString n
  | noSubscriber => "no such subscriber"

namespace Shutdown

/-- A shutdown without subscribers. -/
def new : Shutdown := ⟨false, 0, .empty⟩

/-- Adds a subscriber, who will receive the signals sent from now on. Refused
after the release. -/
def subscribe (s : Shutdown) (name : String) : Shutdown × Bool :=
  if s.released then (s, false) else ({ s with seen := s.seen.insert name s.sent }, true)

/-- Removes a subscriber; tells whether there was one. -/
def unsubscribe (s : Shutdown) (name : String) : Shutdown × Bool :=
  ({ s with seen := s.seen.erase name }, s.seen.contains name)

/-- Sends a signal, unless released. -/
def trigger (s : Shutdown) : Shutdown × Bool :=
  if s.released then (s, false) else ({ s with sent := s.sent + 1 }, true)

/-- Ends the shutdown; tells whether it had not ended yet. -/
def release (s : Shutdown) : Shutdown × Bool :=
  ({ s with released := true }, !s.released)

/-- What a subscriber finds. -/
def poll (s : Shutdown) (name : String) : Shutdown × Receipt :=
  match s.seen.get? name with
  | none => (s, .noSubscriber)
  | some n =>
    if s.sent ≤ n then (s, if s.released then .closed else .empty)
    else if s.sent = n + 1 then ({ s with seen := s.seen.insert name s.sent }, .signal)
    else ({ s with seen := s.seen.insert name (s.sent - 1) }, .lagged (s.sent - 1 - n))

/-- How many subscribers there are, while the shutdown lasts. -/
def receivers? (s : Shutdown) : Option Nat :=
  if s.released then none else some s.seen.size

end Shutdown

end TelemetryControl
