/-
TelemetryControl.ControlLoop — the loop that runs control cycles.

The loop waits for a tick or for a wake-up, starts a cycle, and waits for
its fetch to finish. A shutdown ends it at any point, abandoning a fetch:
the signal may come, come too often, or be lost with its sender.
Wake-ups come through a channel that has room for one: a signal sent while
one is waiting is lost, which is harmless, since the cycle that the waiting
one will start has not fetched yet.

`step` is the whole behaviour as a function of one event. An event that
cannot happen at the loop's stage leaves the loop as it is. Only `fetched`
changes what is under control, and only `shutdown` stops the loop.
-/
import TelemetryControl.Control
import TelemetryControl.Shutdown

namespace TelemetryControl

/-- What the loop tells the outside about itself. -/
inductive LoopPhase where
  | idle
  | fetching
  | applying
  | stopped
deriving DecidableEq, Repr, Inhabited

namespace LoopPhase

def name : LoopPhase → String
  | idle => "idle"
  | fetching => "fetching"
  | applying => "applying"
  | stopped => "stopped"

/-- The phase of a stored number; unknown numbers mean idle. -/
def ofCode : Nat → LoopPhase
  | 1 => fetching
  | 2 => applying
  | 3 => stopped
  | _ => idle

end LoopPhase

/-- Why a cycle is run. -/
inductive CycleCause where
  | tick
  | wakeUp
deriving DecidableEq, Repr, Inhabited

/-- Where the loop is. -/
inductive LoopStage where
  /-- Waiting for a tick or a wake-up. -/
  | waiting
  /-- A cycle is to be run, its fetch not started yet. -/
  | due (cause : CycleCause)
  | fetching
  | stopped
deriving DecidableEq, Repr, Inhabited

/-- The channel through which the loop is woken. -/
structure WakeChannel where
  /-- Whether the loop still listens. -/
  listening : Bool
  /-- Whether somebody may still send. -/
  sending : Bool
  /-- How many wake-ups are waiting. -/
  waiting : Nat
deriving DecidableEq, Repr, Inhabited

namespace WakeChannel

/-- How many wake-ups there is room for. -/
def capacity : Nat := 1

/-- No channel at all. -/
def absent : WakeChannel := ⟨false, false, 0⟩

/-- A new channel. -/
def opened : WakeChannel := ⟨true, true, 0⟩

/-- Whether a wake-up is waiting. -/
def pending (w : WakeChannel) : Bool := decide (0 < w.waiting)

/-- Whether a wake-up can be sent now. -/
def hasRoom (w : WakeChannel) : Bool :=
  w.listening && w.sending && decide (w.waiting < capacity)

/-- The channel after a signal; one that finds no room is lost. -/
def signal (w : WakeChannel) : WakeChannel :=
  if w.hasRoom then { w with waiting := w.waiting + 1 } else w

/-- The channel after a wake-up was received. -/
def receive (w : WakeChannel) : WakeChannel :=
  { w with waiting := w.waiting - 1 }

/-- The channel after the loop has dropped its end, with all that was waiting. -/
def drop (w : WakeChannel) : WakeChannel :=
  { w with listening := false, waiting := 0 }

/-- The channel after its sender is gone. -/
def close (w : WakeChannel) : WakeChannel :=
  { w with sending := false }

end WakeChannel

/-- A running loop. -/
structure ControlLoop where
  stage : LoopStage
  phase : LoopPhase
  wake : WakeChannel
  control : Control

/-- What can happen to a loop. -/
inductive LoopEvent where
  /-- The interval has passed. -/
  | tick
  /-- Somebody sends a wake-up. -/
  | signal
  /-- The sender of wake-ups goes away. -/
  | close
  /-- The loop receives the waiting wake-up. -/
  | takeWake
  /-- The loop finds that no wake-up will come any more. -/
  | findClosed
  /-- The fetch of a due cycle starts. -/
  | startFetch
  /-- The fetch ends with a payload or a fault. -/
  | fetched (result : Except Fault (List UInt8))
  /-- The loop finds something at its shutdown. -/
  | shutdown (receipt : Receipt)

namespace ControlLoop

/-- A loop that has not started a cycle yet. -/
def new (control : Control) (wake : WakeChannel) : ControlLoop :=
  ⟨.waiting, .idle, wake, control⟩

/-- The loop after an event, and what it reports. -/
def step (l : ControlLoop) (e : LoopEvent) : ControlLoop × List Notice :=
  match e with
  | .signal => ({ l with wake := l.wake.signal }, [])
  | .close => ({ l with wake := l.wake.close }, [])
  | .tick =>
    if l.stage = .waiting then ({ l with stage := .due .tick }, []) else (l, [])
  | .takeWake =>
    if l.stage = .waiting ∧ l.wake.listening ∧ l.wake.pending then
      ({ l with stage := .due .wakeUp, wake := l.wake.receive }, [.wakeReceived])
    else (l, [])
  | .findClosed =>
    if l.stage = .waiting ∧ l.wake.listening ∧ ¬ l.wake.pending ∧ ¬ l.wake.sending then
      ({ l with wake := l.wake.drop }, [.wakeClosed])
    else (l, [])
  | .startFetch =>
    match l.stage with
    | .due _ => ({ l with stage := .fetching, phase := .fetching }, [])
    | _ => (l, [])
  | .fetched r =>
    if l.stage = .fetching then
      let done := l.control.finish r
      ({ l with stage := .waiting, phase := .idle, control := done.control },
        done.notices ++
          (match done.result with
            | .ok _ => []
            | .error f => [.cycleFailed f]))
    else (l, [])
  | .shutdown r =>
    if l.stage ≠ .stopped ∧ r.endsWait then
      ({ l with stage := .stopped, phase := .stopped, wake := l.wake.drop },
        (if l.stage = .waiting then [] else [.fetchAbandoned]) ++ [.loopStopped])
    else (l, [])

/-- The phases that are published during an event, in order. -/
def published (l : ControlLoop) (e : LoopEvent) : List LoopPhase :=
  match e with
  | .startFetch =>
    match l.stage with
    | .due _ => [.fetching]
    | _ => []
  | .fetched r =>
    if l.stage = .fetching then
      match (l.control.finish r).result with
      | .ok _ => [.applying, .idle]
      | .error _ => [.idle]
    else []
  | .shutdown r => if l.stage ≠ .stopped ∧ r.endsWait then [.stopped] else []
  | _ => []

/-- The loop after a list of events. -/
def run (l : ControlLoop) (es : List LoopEvent) : ControlLoop :=
  es.foldl (fun l e => (l.step e).1) l

end ControlLoop

end TelemetryControl
