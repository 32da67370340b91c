/-
TelemetryControl.Schedule — a control loop on a clock.

Ticks come at a fixed interval, the first at once. A tick that the loop is
too busy to take waits for it, and when it is taken more than five
milliseconds late the interval starts anew from there. A fetch takes its
own time. `advance` lets the clock run and feeds the loop the events that
fall due; all times are in milliseconds.
-/
import TelemetryControl.ControlLoop

namespace TelemetryControl

/-- What a source will answer, and how long it takes. -/
structure Delivery where
  result : Except Fault (List UInt8)
  delay : Nat

/-- A control loop with its clock and its source. -/
structure Schedule where
  loop : ControlLoop
  /-- The time. -/
  now : Nat
  interval : Nat
  /-- When the next tick falls due. -/
  nextTick : Nat
  /-- What the running fetch will give, and when. -/
  fetching : Option (Nat × Except Fault (List UInt8))
  /-- Fetches begun. -/
  started : Nat
  /-- Fetches finished. -/
  done : Nat
  /-- The notices so far, the newest first. -/
  notices : List Notice

namespace Schedule

/-- Lateness up to which a tick keeps the rhythm. -/
def tolerance : Nat := 5

/-- A schedule at time zero. An interval of nothing is raised to one. -/
def new (loop : ControlLoop) (interval : Nat) : Schedule :=
  ⟨loop, 0, max interval 1, 0, none, 0, 0, []⟩

/-- Lets an event happen to the loop. -/
def feed (s : Schedule) (e : LoopEvent) : Schedule :=
  let (loop, notices) := s.loop.step e
  { s with loop := loop, notices := notices.reverse ++ s.notices }

/-- Starts the fetch of a due cycle; the source is asked what it will answer. -/
def start (source : Nat → Nat → Delivery) (s : Schedule) : Schedule :=
  let d := source s.started s.now
  { s.feed .startFetch with
    fetching := some (s.now + d.delay, d.result)
    started := s.started + 1 }

/-- Takes a tick. -/
def takeTick (s : Schedule) : Schedule :=
  let next :=
    if s.nextTick + tolerance < s.now then s.now + s.interval else s.nextTick + s.interval
  { s.feed .tick with nextTick := next }

/-- The next event that falls due by a time, and the state after it. -/
def next? (source : Nat → Nat → Delivery) (s : Schedule) (due : Nat → Bool) : Option Schedule :=
  match s.loop.stage with
  | .stopped => none
  | .due _ => if due s.now then some (s.start source) else none
  | .fetching =>
    match s.fetching with
    | none => none
    | some (time, result) =>
      if due (max s.now time) then
        some { { s with now := max s.now time }.feed (.fetched result) with
          fetching := none
          done := s.done + 1 }
      else none
  | .waiting =>
    if s.loop.wake.listening && s.loop.wake.pending && due s.now then some (s.feed .takeWake)
    else if s.loop.wake.listening && !s.loop.wake.sending && due s.now then
      some (s.feed .findClosed)
    else if due (max s.now s.nextTick) then
      some { s with now := max s.now s.nextTick }.takeTick
    else none

/-- Lets events happen as long as one falls due. -/
def drain (source : Nat → Nat → Delivery) (due : Nat → Bool) : Nat → Schedule → Schedule
  | 0, s => s
  | fuel + 1, s =>
    match s.next? source due with
    | some s' => drain source due fuel s'
    | none => s

/-- Lets so many milliseconds pass. What falls due at the very end has not
happened yet. A tick comes at most once a millisecond, and a cycle has four
events. -/
def advance (source : Nat → Nat → Delivery) (s : Schedule) (ms : Nat) : Schedule :=
  let stop := s.now + ms
  { s.drain source (· < stop) (8 * (ms + s.interval) + 64) with now := stop }

/-- Lets everything happen that falls due by now. -/
def settle (source : Nat → Nat → Delivery) (s : Schedule) : Schedule :=
  s.drain source (· ≤ s.now) 64

/-- Lets the loop be shut down. -/
def shutdown (s : Schedule) : Schedule :=
  s.feed (.shutdown .signal)

end Schedule

end TelemetryControl
