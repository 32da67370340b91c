/-
TelemetryControl.Proofs.ControlLoop.WakeUps — no change of the file goes unseen.

A watch sends the loop a wake-up for every change that counts, and a wake-up
that finds another waiting is lost. That is safe because of when a wake-up is
taken: before the fetch of the cycle it starts, never after. So once a change
has come, a wake-up is waiting or has been taken, and nothing but the start of
a fetch puts an end to this (`awake_run`). The channel itself has room for one
(`waiting_run_le`), and as each cycle run for a wake-up has cost one, there
are no more of them than changes (`wakeCycles_add_waiting_le`).

The main result, of all three together, is `change_waits_for_next_fetch`.
-/
import TelemetryControl.Proofs.ControlLoop.Run
import TelemetryControl.Watch

namespace TelemetryControl

/-- What happens around a loop that is woken by a watch. -/
inductive WatchedEvent where
  /-- The system tells of a change to the files. -/
  | file (signal : Signal)
  /-- The loop does something. -/
  | loop (event : LoopEvent)

/-- Whether an event is the loop's own doing, not that of the sender of its
wake-ups. -/
def LoopEvent.isOwn : LoopEvent → Bool
  | .signal | .close => false
  | _ => true

def LoopEvent.isSignal : LoopEvent → Bool
  | .signal => true
  | _ => false

namespace Watch

/-- Whether an event is a change that counts for the watch. -/
def counts (w : Watch) : WatchedEvent → Bool
  | .file s => w.isRelevant s
  | .loop _ => false

/-- What an event is to the loop: each change that counts is one attempt to wake
it. -/
def toLoop? (w : Watch) : WatchedEvent → Option LoopEvent
  | .file s => if w.isRelevant s then some .signal else none
  | .loop e => some e

/-- What some events are to the loop, in order. -/
def toLoop (w : Watch) (es : List WatchedEvent) : List LoopEvent :=
  es.filterMap w.toLoop?

theorem countP_isSignal_toLoop (w : Watch) {es : List WatchedEvent}
    (own : ∀ e, .loop e ∈ es → e.isOwn = true) :
    (w.toLoop es).countP LoopEvent.isSignal = es.countP w.counts := by
  rw [toLoop, List.countP_filterMap]
  refine List.countP_congr fun e member => ?_
  cases e with
  | file s =>
    cases relevant : w.isRelevant s <;> simp [toLoop?, counts, relevant, LoopEvent.isSignal]
  | loop e =>
    have mine := own e member
    cases e <;> simp_all [toLoop?, counts, LoopEvent.isOwn, LoopEvent.isSignal]

@[simp] theorem toLoop_append (w : Watch) (before after : List WatchedEvent) :
    w.toLoop (before ++ after) = w.toLoop before ++ w.toLoop after :=
  List.filterMap_append

theorem toLoop_cons_of_isRelevant {w : Watch} {s : Signal} (relevant : w.isRelevant s = true)
    (after : List WatchedEvent) : w.toLoop (.file s :: after) = .signal :: w.toLoop after := by
  simp [toLoop, toLoop?, relevant]

/-- The watch never goes away by itself. -/
theorem close_notMem_toLoop {w : Watch} {es : List WatchedEvent}
    (own : ∀ e, .loop e ∈ es → e.isOwn = true) : .close ∉ w.toLoop es := by
  intro closed
  obtain ⟨e, member, is⟩ := List.mem_filterMap.mp closed
  cases e with
  | file s => simp [toLoop?] at is
  | loop e =>
    obtain rfl := Option.some.inj is
    simpa [LoopEvent.isOwn] using own _ member

end Watch

/-! ## 1. Room for one -/

namespace WakeChannel

variable {w : WakeChannel}

@[simp] theorem listening_signal : w.signal.listening = w.listening := by
  unfold signal
  split <;> rfl

@[simp] theorem sending_signal : w.signal.sending = w.sending := by
  unfold signal
  split <;> rfl

theorem waiting_signal : w.signal.waiting = if w.hasRoom then w.waiting + 1 else w.waiting := by
  unfold signal
  split <;> rfl

theorem waiting_le_waiting_signal : w.waiting ≤ w.signal.waiting := by
  rw [waiting_signal]
  split <;> omega

theorem waiting_signal_le : w.signal.waiting ≤ w.waiting + 1 := by
  rw [waiting_signal]
  split <;> omega

theorem waiting_signal_le_capacity (h : w.waiting ≤ capacity) : w.signal.waiting ≤ capacity := by
  rw [waiting_signal]
  split
  · next room =>
    simp only [hasRoom, Bool.and_eq_true, decide_eq_true_eq] at room
    exact room.2
  · exact h

/-- After a signal a wake-up waits, also when the signal found no room. -/
theorem waiting_signal_pos (listening : w.listening = true) (sending : w.sending = true) :
    0 < w.signal.waiting := by
  rw [waiting_signal]
  split
  · exact Nat.succ_pos _
  · next full =>
    have some : w.waiting ≠ 0 := by simpa [hasRoom, listening, sending, capacity] using full
    exact Nat.pos_of_ne_zero some

end WakeChannel

namespace ControlLoop

variable {l l' : ControlLoop} {e : LoopEvent} {ps : List LoopPhase}

theorem Moves.waiting_le (m : Moves l e ps l') (h : l.wake.waiting ≤ WakeChannel.capacity) :
    l'.wake.waiting ≤ WakeChannel.capacity := by
  cases m with
  | signal => exact WakeChannel.waiting_signal_le_capacity h
  | takeWake => exact le_trans (Nat.sub_le _ _) h
  | findClosed | stop => exact Nat.zero_le _
  | tick | close | startFetch | commit | giveUp => exact h

theorem waiting_run_le (h : l.wake.waiting ≤ WakeChannel.capacity) (es : List LoopEvent) :
    (l.run es).wake.waiting ≤ WakeChannel.capacity :=
  run_induction h (fun m _ _ _ => m.waiting_le)

/-! ## 2. A change waits -/

/-- A wake-up is waiting, or was taken for a cycle whose fetch is still to start. -/
def Awake (l : ControlLoop) : Prop :=
  0 < l.wake.waiting ∨ l.stage = .due .wakeUp

/-- Both ends of the channel are there. -/
def Reachable (l : ControlLoop) : Prop :=
  l.wake.listening = true ∧ l.wake.sending = true

/-- Only the start of a fetch or the end of the loop puts an end to being awake. -/
theorem Moves.awake (m : Moves l e ps l') (h : l.Awake) (noFetch : .fetching ∉ ps)
    (running : l'.stage ≠ .stopped) : l'.Awake := by
  have waits (other : l.stage ≠ .due .wakeUp) : 0 < l.wake.waiting := h.resolve_right other
  cases m with
  | tick waiting => exact .inl (waits (by simp [waiting]))
  | signal =>
    rcases h with some | taken
    · exact .inl (lt_of_lt_of_le some WakeChannel.waiting_le_waiting_signal)
    · exact .inr taken
  | close => exact h
  | takeWake => exact .inr rfl
  | findClosed waiting empty =>
    have some := waits (by simp [waiting])
    simp [WakeChannel.pending] at empty
    omega
  | startFetch => simp at noFetch
  | commit fetching => exact .inl (waits (by simp [fetching]))
  | giveUp fetching => exact .inl (waits (by simp [fetching]))
  | stop => simp at running

theorem Moves.reachable (m : Moves l e ps l') (h : l.Reachable) (own : e ≠ .close)
    (running : l'.stage ≠ .stopped) : l'.Reachable := by
  cases m with
  | signal => simpa [Reachable] using h
  | close => simp at own
  | findClosed _ _ closed => simp [h.2] at closed
  | stop => simp at running
  | tick | takeWake | startFetch | commit | giveUp => exact h

/-- A signal wakes a loop that can be reached. -/
theorem awake_signal (h : l.Reachable) : (l.step .signal).1.Awake :=
  .inl (WakeChannel.waiting_signal_pos h.1 h.2)

theorem awake_run (h : l.Awake) {es : List LoopEvent} (noFetch : .fetching ∉ l.history es)
    (running : (l.run es).stage ≠ .stopped) : (l.run es).Awake :=
  run_induction h (fun m _ shown ends awake =>
    m.awake awake (fun fetching => noFetch (shown fetching)) (mt ends running))

theorem reachable_run (h : l.Reachable) {es : List LoopEvent} (opened : .close ∉ es)
    (running : (l.run es).stage ≠ .stopped) : (l.run es).Reachable :=
  run_induction h (fun m member _ ends reachable =>
    m.reachable reachable (fun closed => opened (closed ▸ member)) (mt ends running))

/-- From a signal on, a loop that can be reached is awake until a fetch starts. -/
theorem awake_run_of_signal (h : l.Reachable) {before after : List LoopEvent}
    (opened : .close ∉ before)
    (noFetch : .fetching ∉ (l.run (before ++ [.signal])).history after)
    (running : (l.run (before ++ .signal :: after)).stage ≠ .stopped) :
    (l.run (before ++ .signal :: after)).Awake := by
  rw [run_append] at running noFetch ⊢
  have reachable : (l.run before).Reachable :=
    reachable_run h opened (fun stopped => running (run_of_stopped stopped _).1)
  exact awake_run (awake_signal reachable) noFetch running

/-! ## 3. What wake-ups cost -/

/-- Whether a step of a loop starts a cycle because of a wake-up. -/
def isWoken (before after : ControlLoop) : Prop :=
  before.stage = .waiting ∧ after.stage = .due .wakeUp

instance (before after : ControlLoop) : Decidable (isWoken before after) :=
  inferInstanceAs (Decidable (_ ∧ _))

theorem not_isWoken_of_stage_eq (same : l'.stage = l.stage) : ¬ isWoken l l' := by
  rintro ⟨waiting, due⟩
  rw [same, waiting] at due
  cases due

/-- How many cycles of a run were started by a wake-up. -/
def wakeCycles (l : ControlLoop) : List LoopEvent → Nat
  | [] => 0
  | e :: rest =>
    (if isWoken l (l.step e).1 then 1 else 0) + (l.step e).1.wakeCycles rest

/-- A cycle that a wake-up starts uses it up, and only a signal brings one. -/
theorem Moves.wake_cost (m : Moves l e ps l') :
    (if isWoken l l' then 1 else 0) + l'.wake.waiting ≤
      l.wake.waiting + (if e.isSignal then 1 else 0) := by
  cases m with
  | signal =>
    simpa [not_isWoken_of_stage_eq, LoopEvent.isSignal] using WakeChannel.waiting_signal_le
  | takeWake waiting _ some =>
    have one : 0 < l.wake.waiting := by simpa [WakeChannel.pending] using some
    rw [if_pos ⟨waiting, rfl⟩]
    show 1 + (l.wake.waiting - 1) ≤ l.wake.waiting + 0
    omega
  | close | findClosed =>
    simp [not_isWoken_of_stage_eq, LoopEvent.isSignal, WakeChannel.drop, WakeChannel.close]
  | tick | startFetch | commit | giveUp | stop => simp [isWoken, LoopEvent.isSignal, WakeChannel.drop]

/-- There were no more cycles from wake-ups than signals, and one less for each that
still waits. -/
theorem wakeCycles_add_waiting_le (l : ControlLoop) (es : List LoopEvent) :
    l.wakeCycles es + (l.run es).wake.waiting ≤ l.wake.waiting + es.countP LoopEvent.isSignal := by
  induction es generalizing l with
  | nil => simp [wakeCycles]
  | cons e rest ih =>
    have cost : (if isWoken l (l.step e).1 then 1 else 0) + (l.step e).1.wake.waiting ≤
        l.wake.waiting + (if e.isSignal then 1 else 0) := by
      rcases l.step_moves e with moved | ⟨-, unmoved⟩
      · exact moved.wake_cost
      · rw [unmoved, if_neg (not_isWoken_of_stage_eq rfl)]
        omega
    have later := ih (l.step e).1
    rw [wakeCycles, run_cons, List.countP_cons]
    omega

/-! ## 4. The watch and the loop -/

/-- **No change waits in vain.** Take any run of a loop that a watch wakes, the changes
of files falling anywhere between its steps, with the sender of wake-ups always there.

No more than one wake-up ever waits, and no more cycles are run for wake-ups than
changes that count have come. As long as the loop has not ended, a change that
counts and after which no fetch has started is still awaited: a wake-up is waiting,
or one was taken for the cycle whose fetch starts next. -/
theorem change_waits_for_next_fetch (c : Control) (w : Watch) (es : List WatchedEvent)
    (own : ∀ e, .loop e ∈ es → e.isOwn = true) :
    let start := new c .opened
    let l := start.run (w.toLoop es)
    l.wake.waiting ≤ 1 ∧
      start.wakeCycles (w.toLoop es) ≤ es.countP w.counts ∧
      (l.stage ≠ .stopped → ∀ before s after, es = before ++ .file s :: after →
        w.isRelevant s = true →
        .fetching ∉ (start.run (w.toLoop (before ++ [.file s]))).history (w.toLoop after) →
          0 < l.wake.waiting ∨ l.stage = .due .wakeUp) := by
  intro start l
  refine ⟨waiting_run_le (l := start) (Nat.zero_le _) _, ?cost, ?awaited⟩
  case cost =>
    have cost := start.wakeCycles_add_waiting_le (w.toLoop es)
    rw [w.countP_isSignal_toLoop own] at cost
    exact le_trans (Nat.le_add_right _ _) (by simpa [start, new, WakeChannel.opened] using cost)
  case awaited =>
    rintro running before s after rfl relevant noFetch
    simp only [l, Watch.toLoop_append, Watch.toLoop_cons_of_isRelevant relevant]
      at running noFetch ⊢
    refine awake_run_of_signal ⟨rfl, rfl⟩ ?_ noFetch running
    exact Watch.close_notMem_toLoop fun e member => own e (List.mem_append_left _ member)

/-- After a change in the middle of a fetch for a tick, one between the receipt of its
wake-up and the fetch that it is for, and one that finds no room. -/
theorem change_waits_in_full_channel :
    let start := new (Control.new (Pipeline.create (LoggerTree.built .info []))
      ⟨⟨0x3FD0000000000000⟩, 2305843009213693952⟩ .json .single) .opened
    let w : Watch := ⟨some 0, none, some "dial.json"⟩
    let s : Signal := .named 0 "dial.json"
    let before : List WatchedEvent := [.loop .tick, .loop .startFetch, .file s,
      .loop (.fetched (.error (.transport "refused"))), .loop .takeWake]
    let es := before ++ .file s :: [.file s]
    let l := start.run (w.toLoop es)
    ((∀ e, .loop e ∈ es → e.isOwn = true) ∧ l.stage ≠ .stopped ∧ w.isRelevant s = true ∧
        .fetching ∉ (start.run (w.toLoop (before ++ [.file s]))).history (w.toLoop [.file s])) ∧
      l.wake.waiting ≤ 1 ∧ start.wakeCycles (w.toLoop es) ≤ es.countP w.counts ∧
        (0 < l.wake.waiting ∨ l.stage = .due .wakeUp) := by
  intro start w s before es l
  have own : ∀ e, .loop e ∈ es → e.isOwn = true := by
    intro e member
    simp only [es, before, List.cons_append, List.nil_append, List.mem_cons, WatchedEvent.loop.injEq,
      List.not_mem_nil, or_false, reduceCtorEq, false_or] at member
    rcases member with rfl | rfl | rfl | rfl <;> rfl
  have running : l.stage ≠ .stopped := by decide
  have relevant : w.isRelevant s = true := by decide
  have noFetch :
      .fetching ∉ (start.run (w.toLoop (before ++ [.file s]))).history (w.toLoop [.file s]) := by
    decide
  obtain ⟨room, cost, waits⟩ := change_waits_for_next_fetch start.control w es own
  exact ⟨⟨own, running, relevant, noFetch⟩, room, cost,
    waits running before s [.file s] rfl relevant noFetch⟩

end ControlLoop

end TelemetryControl
