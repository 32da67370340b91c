/-
TelemetryControl.Proofs.ControlLoop.Run — what a running loop does, event by event.

Two waits race five kinds of events, so anything may meet anything. `Moves`
lists what the loop can do, each move with the event that makes it and the
phases published in it, and a step of the loop is one of these moves or
nothing (`step_moves`). What a run does is read off the list: one move alone
touches what is under control, one alone ends the loop, and no move starts
from a loop that has ended but those of its wake channel.

The main result is `run_commits_whole_snapshots`.
-/
import TelemetryControl.ControlLoop
import TelemetryControl.Proofs.Control.Run

namespace TelemetryControl

/-! ## 1. Phases -/

namespace LoopPhase

/-- The phases that may follow a phase. A loop may be stopped in any. -/
inductive Next : LoopPhase → LoopPhase → Prop where
  | fetch : Next .idle .fetching
  | giveUp : Next .fetching .idle
  | apply : Next .fetching .applying
  | settle : Next .applying .idle
  | stop {p : LoopPhase} : p ≠ .stopped → Next p .stopped

/-- From one phase through some others, in order, to the last of them. -/
inductive Path : LoopPhase → List LoopPhase → LoopPhase → Prop where
  | here (p : LoopPhase) : Path p [] p
  | next {p q r : LoopPhase} {ps : List LoopPhase} : Next p q → Path q ps r → Path p (q :: ps) r

theorem Path.append {p q r : LoopPhase} {ps qs : List LoopPhase} (h : Path p ps q)
    (h' : Path q qs r) : Path p (ps ++ qs) r := by
  induction h with
  | here => exact h'
  | next first _ ih => exact .next first (ih h')

/-- Nothing follows on stopping. -/
theorem Path.of_stopped {ps : List LoopPhase} {q : LoopPhase} (h : Path .stopped ps q) :
    ps = [] ∧ q = .stopped := by
  cases h with
  | here => exact ⟨rfl, rfl⟩
  | next first _ =>
    cases first with
    | stop running => exact absurd rfl running

theorem Path.eq_stopped_of_mem {p q : LoopPhase} {ps : List LoopPhase} (h : Path p ps q)
    (stopped : .stopped ∈ ps) : q = .stopped := by
  induction h with
  | here => simp at stopped
  | next _ rest ih =>
    rcases List.mem_cons.mp stopped with rfl | later
    · exact rest.of_stopped.2
    · exact ih later

end LoopPhase

/-- The phase that is published while the loop is at a stage. -/
def LoopStage.phase : LoopStage → LoopPhase
  | .waiting | .due _ => .idle
  | .fetching => .fetching
  | .stopped => .stopped

theorem LoopStage.phase_eq_stopped_iff (s : LoopStage) : s.phase = .stopped ↔ s = .stopped := by
  cases s <;> simp [phase]

/-- Whether an event is the end of the loop's wait for its shutdown. -/
def LoopEvent.isEnd : LoopEvent → Bool
  | .shutdown receipt => receipt.endsWait
  | _ => false

namespace ControlLoop

/-! ## 2. Moves -/

/-- What a loop can do: the loop before, the event, what is published, the loop
after. -/
inductive Moves (l : ControlLoop) : LoopEvent → List LoopPhase → ControlLoop → Prop where
  | tick : l.stage = .waiting → Moves l .tick [] { l with stage := .due .tick }
  | signal : Moves l .signal [] { l with wake := l.wake.signal }
  | close : Moves l .close [] { l with wake := l.wake.close }
  | takeWake : l.stage = .waiting → l.wake.listening = true → l.wake.pending = true →
      Moves l .takeWake [] { l with stage := .due .wakeUp, wake := l.wake.receive }
  | findClosed : l.stage = .waiting → l.wake.pending = false → l.wake.sending = false →
      Moves l .findClosed [] { l with wake := l.wake.drop }
  | startFetch {cause : CycleCause} : l.stage = .due cause →
      Moves l .startFetch [.fetching] { l with stage := .fetching, phase := .fetching }
  | commit {fetched : Control.Fetched} {s : Snapshot} : l.stage = .fetching →
      l.control.received? fetched = some s →
      Moves l (.fetched fetched) [.applying, .idle]
        { l with stage := .waiting, phase := .idle, control := (l.control.commit s).control }
  | giveUp {fetched : Control.Fetched} : l.stage = .fetching →
      l.control.received? fetched = none →
      Moves l (.fetched fetched) [.idle] { l with stage := .waiting, phase := .idle }
  | stop {receipt : Receipt} : l.stage ≠ .stopped → receipt.endsWait = true →
      Moves l (.shutdown receipt) [.stopped]
        { l with stage := .stopped, phase := .stopped, wake := l.wake.drop }

/-- A step is a move, or nothing happens. -/
theorem step_moves (l : ControlLoop) (e : LoopEvent) :
    Moves l e (l.published e) (l.step e).1 ∨ l.published e = [] ∧ (l.step e).1 = l := by
  cases e with
  | tick =>
    by_cases waiting : l.stage = .waiting
    · simp only [published, step, if_pos waiting]
      exact .inl (.tick waiting)
    · simp [published, step, waiting]
  | signal => exact .inl .signal
  | close => exact .inl .close
  | takeWake =>
    by_cases ready : l.stage = .waiting ∧ l.wake.listening ∧ l.wake.pending
    · simp only [published, step, if_pos ready]
      exact .inl (.takeWake ready.1 ready.2.1 ready.2.2)
    · exact .inr ⟨rfl, by simp only [step, if_neg ready]⟩
  | findClosed =>
    by_cases ready : l.stage = .waiting ∧ l.wake.listening ∧ ¬ l.wake.pending ∧ ¬ l.wake.sending
    · simp only [published, step, if_pos ready]
      obtain ⟨waiting, -, empty, closed⟩ := ready
      exact .inl (.findClosed waiting (by simpa using empty) (by simpa using closed))
    · exact .inr ⟨rfl, by simp only [step, if_neg ready]⟩
  | startFetch =>
    cases stage : l.stage with
    | due cause =>
      simp only [published, step, stage]
      exact .inl (.startFetch stage)
    | _ => simp [published, step, stage]
  | fetched fetched =>
    by_cases fetching : l.stage = .fetching
    · have control := l.control.control_finish fetched
      have succeeds := l.control.result_finish fetched
      simp only [published, step, if_pos fetching]
      cases received : l.control.received? fetched with
      | some s =>
        obtain ⟨outcome, result⟩ := succeeds.mpr (by rw [received]; rfl)
        rw [received] at control
        simp only [result, control]
        exact .inl (.commit fetching received)
      | none =>
        cases result : (l.control.finish fetched).result with
        | ok outcome => simpa [received] using succeeds.mp ⟨outcome, result⟩
        | error f =>
          rw [received] at control
          simp only [control]
          exact .inl (.giveUp fetching received)
    · simp [published, step, fetching]
  | shutdown receipt =>
    by_cases ends : l.stage ≠ .stopped ∧ receipt.endsWait
    · simp only [published, step, if_pos ends]
      exact .inl (.stop ends.1 ends.2)
    · exact .inr ⟨by simp only [published, if_neg ends], by simp only [step, if_neg ends]⟩

/-! ## 3. Runs -/

/-- The phases that a run publishes, in order. -/
def history (l : ControlLoop) : List LoopEvent → List LoopPhase
  | [] => []
  | e :: rest => l.published e ++ (l.step e).1.history rest

@[simp] theorem run_nil (l : ControlLoop) : l.run [] = l := rfl

@[simp] theorem run_cons (l : ControlLoop) (e : LoopEvent) (rest : List LoopEvent) :
    l.run (e :: rest) = (l.step e).1.run rest := rfl

@[simp] theorem run_append (l : ControlLoop) (earlier later : List LoopEvent) :
    l.run (earlier ++ later) = (l.run earlier).run later := by
  simp [run]

variable {l l' : ControlLoop} {e : LoopEvent} {ps : List LoopPhase}

/-- A loop that has ended does nothing more. -/
theorem Moves.of_stopped (m : Moves l e ps l') (h : l.stage = .stopped) :
    ps = [] ∧ l'.stage = .stopped ∧ l'.control = l.control := by
  cases m <;> simp_all

theorem run_of_stopped (h : l.stage = .stopped) (es : List LoopEvent) :
    (l.run es).stage = .stopped ∧ (l.run es).control = l.control ∧ l.history es = [] := by
  induction es generalizing l with
  | nil => exact ⟨h, rfl, rfl⟩
  | cons e rest ih =>
    rw [run_cons, history]
    rcases l.step_moves e with moved | ⟨silent, unmoved⟩
    · obtain ⟨silent, stopped, control⟩ := moved.of_stopped h
      obtain ⟨stays, keeps, quiet⟩ := ih stopped
      exact ⟨stays, keeps.trans control, by rw [silent, quiet]; rfl⟩
    · rw [silent, unmoved]
      exact ih h

/-- What no move of a run spoils, the run does not spoil. A move of a run is made by
one of its events, its phases are in the history, and it ends no loop that the run
does not end. -/
theorem run_induction {motive : ControlLoop → Prop} {es : List LoopEvent} (start : motive l)
    (move : ∀ {k k' e ps}, Moves k e ps k' → e ∈ es → ps ⊆ l.history es →
      (k'.stage = .stopped → (l.run es).stage = .stopped) → motive k → motive k') :
    motive (l.run es) := by
  induction es generalizing l with
  | nil => exact start
  | cons e rest ih =>
    rw [run_cons] at move ⊢
    refine ih ?first (fun moved member shown => ?later)
    case first =>
      rcases l.step_moves e with moved | ⟨-, unmoved⟩
      · exact move moved List.mem_cons_self (List.subset_append_left _ _)
          (fun stopped => (run_of_stopped stopped rest).1) start
      · rw [unmoved]
        exact start
    case later =>
      exact move moved (List.mem_cons_of_mem _ member) (List.subset_append_of_subset_right _ shown)

/-! ## 4. What is published -/

/-- The phase last published is that of the stage. -/
theorem Moves.phase_eq (m : Moves l e ps l') (h : l.phase = l.stage.phase) :
    l'.phase = l'.stage.phase := by
  cases m with
  | tick waiting => simpa [waiting, LoopStage.phase] using h
  | takeWake waiting => simpa [waiting, LoopStage.phase] using h
  | signal | close | findClosed => exact h
  | startFetch | commit | giveUp | stop => rfl

theorem Moves.path (m : Moves l e ps l') (h : l.phase = l.stage.phase) :
    LoopPhase.Path l.phase ps l'.phase := by
  cases m with
  | tick | signal | close | takeWake | findClosed => exact .here l.phase
  | startFetch due =>
    rw [h, due]
    exact .next .fetch (.here _)
  | commit fetching =>
    rw [h, fetching]
    exact .next .apply (.next .settle (.here _))
  | giveUp fetching =>
    rw [h, fetching]
    exact .next .giveUp (.here _)
  | stop running =>
    refine .next (.stop ?_) (.here _)
    rw [h, Ne, LoopStage.phase_eq_stopped_iff]
    exact running

/-- A run publishes one phase after the other, down to the phase that it ends in. -/
theorem path_history (h : l.phase = l.stage.phase) (es : List LoopEvent) :
    LoopPhase.Path l.phase (l.history es) (l.run es).phase := by
  induction es generalizing l with
  | nil => exact .here _
  | cons e rest ih =>
    rw [run_cons, history]
    rcases l.step_moves e with moved | ⟨silent, unmoved⟩
    · exact (moved.path h).append (ih (moved.phase_eq h))
    · rw [silent, unmoved]
      exact ih h

/-! ## 5. What ends a loop -/

/-- A step leads to the end exactly when the loop was there already or an end came. -/
theorem stage_step_eq_stopped_iff (l : ControlLoop) (e : LoopEvent) :
    (l.step e).1.stage = .stopped ↔ l.stage = .stopped ∨ e.isEnd = true := by
  rcases l.step_moves e with moved | ⟨silent, unmoved⟩
  · generalize l.published e = ps at moved
    generalize (l.step e).1 = l' at moved
    cases moved <;> simp_all [LoopEvent.isEnd]
  · rw [unmoved]
    refine ⟨.inl, fun h => h.elim id (fun ends => ?_)⟩
    cases e with
    | shutdown receipt =>
      by_contra running
      simp_all [published, LoopEvent.isEnd]
    | _ => simp [LoopEvent.isEnd] at ends

theorem stage_run_eq_stopped_iff (l : ControlLoop) (es : List LoopEvent) :
    (l.run es).stage = .stopped ↔ l.stage = .stopped ∨ ∃ e ∈ es, e.isEnd = true := by
  induction es generalizing l with
  | nil => simp
  | cons e rest ih =>
    rw [run_cons, ih, stage_step_eq_stopped_iff]
    simp [or_assoc]

/-! ## 6. What is committed -/

/-- One move touches what is under control, that in which a fetch ends with a
snapshot. -/
theorem Moves.control_eq (m : Moves l e ps l') :
    l'.control = l.control ∨
      ∃ fetched s, e = .fetched fetched ∧ l.stage = .fetching ∧
        l.control.received? fetched = some s ∧ l'.control = (l.control.commit s).control := by
  cases m with
  | commit fetching received => exact .inr ⟨_, _, rfl, fetching, received, rfl⟩
  | _ => exact .inl rfl

/-- What is under control changes when a fetch ends with a payload that decodes. -/
theorem exists_decode_of_control_ne (h : (l.step e).1.control ≠ l.control) :
    ∃ payload decoded, e = .fetched (.ok payload) ∧ l.stage = .fetching ∧
      Snapshot.decode l.control.format l.control.layout l.control.service payload =
        .ok decoded := by
  rcases l.step_moves e with moved | ⟨-, unmoved⟩
  · rcases moved.control_eq with same | ⟨fetched, s, rfl, fetching, received, -⟩
    · exact absurd same h
    · obtain ⟨payload, decoded, rfl, decodes, -⟩ := Control.received?_eq_some_iff.mp received
      exact ⟨payload, decoded, rfl, fetching, decodes⟩
  · exact absurd (congrArg control unmoved) h

/-- Then the levels and the ratio, if it is in range, are committed together. -/
theorem control_step_of_decode {payload : List UInt8} {decoded : Decoded}
    (fetching : l.stage = .fetching)
    (decodes : Snapshot.decode l.control.format l.control.layout l.control.service payload =
      .ok decoded) :
    let l' := (l.step (.fetched (.ok payload))).1
    l'.control.pipeline = l.control.pipeline.apply decoded.snapshot ∧
      l'.control.sampler =
        match decoded.snapshot.acceptedRatio? with
        | some r => ⟨r, Sampler.cutPointOf r⟩
        | none => l.control.sampler := by
  intro l'
  have received : l.control.received? (.ok payload) = some decoded.snapshot :=
    Control.received?_eq_some_iff.mpr ⟨payload, decoded, rfl, decodes, rfl⟩
  have finished : l'.control = (l.control.finish (.ok payload)).control := by
    simp only [l', step, if_pos fetching]
  rw [finished, Control.control_finish, received, Control.sampler_commit]
  refine ⟨rfl, ?_⟩
  cases decoded.snapshot.acceptedRatio? <;> rfl

/-- **A cycle is committed whole or not at all, and the end is final.** Take any run of
a loop and any event that comes next.

What is under control changes only in the one step in which a fetch ends with a
payload that decodes, and this step commits both halves of the snapshot: the
levels, and the ratio if it is in range. A shutdown changes none of it, least
of all while a fetch is running. The loop has ended exactly when its shutdown
signal came, some of it was lost, or its sender went; no fault and no closing
of the wake channel ends it. The phases it publishes run from idle through
fetching back to idle, by way of applying or not, and stopping is open to it
from wherever it is. After that it publishes nothing, fetches nothing and
changes nothing. -/
theorem run_commits_whole_snapshots (c : Control) (wake : WakeChannel) (es : List LoopEvent)
    (e : LoopEvent) :
    let start := new c wake
    let l := start.run es
    let l' := (l.step e).1
    (l'.control ≠ l.control →
        ∃ payload decoded, e = .fetched (.ok payload) ∧ l.stage = .fetching ∧
          Snapshot.decode l.control.format l.control.layout l.control.service payload =
            .ok decoded) ∧
      (∀ payload decoded, e = .fetched (.ok payload) → l.stage = .fetching →
        Snapshot.decode l.control.format l.control.layout l.control.service payload =
            .ok decoded →
          l'.control.pipeline = l.control.pipeline.apply decoded.snapshot ∧
            l'.control.sampler =
              match decoded.snapshot.acceptedRatio? with
              | some r => ⟨r, Sampler.cutPointOf r⟩
              | none => l.control.sampler) ∧
      (∀ receipt, e = .shutdown receipt → l'.control = l.control) ∧
      (l.stage = .stopped ↔ ∃ receipt, receipt.endsWait = true ∧ .shutdown receipt ∈ es) ∧
      LoopPhase.Path .idle (start.history es) l.phase ∧
      (l.phase ≠ .stopped → ∀ receipt, receipt.endsWait = true →
        l.published (.shutdown receipt) = [.stopped] ∧
          (l.step (.shutdown receipt)).1.phase = .stopped) ∧
      (.stopped ∈ start.history es → ∀ later,
        (l.run later).phase = .stopped ∧ (l.run later).control = l.control ∧
          l.history later = []) := by
  intro start l l'
  have shown : l.phase = l.stage.phase :=
    run_induction (motive := fun l => l.phase = l.stage.phase) rfl (fun m _ _ _ => m.phase_eq)
  have path : LoopPhase.Path .idle (start.history es) l.phase :=
    path_history (l := start) rfl es
  have ended : l.phase = .stopped ↔ l.stage = .stopped := by
    rw [shown, LoopStage.phase_eq_stopped_iff]
  refine ⟨exists_decode_of_control_ne, ?whole, ?abandoned, ?ends, path, ?stoppable, ?final⟩
  case whole =>
    rintro payload decoded rfl fetching decodes
    exact control_step_of_decode fetching decodes
  case abandoned =>
    rintro receipt rfl
    by_contra changed
    obtain ⟨payload, decoded, isFetched, -⟩ := exists_decode_of_control_ne changed
    cases isFetched
  case ends =>
    rw [stage_run_eq_stopped_iff]
    constructor
    · rintro (fresh | ⟨event, member, ends⟩)
      · cases fresh
      · cases event with
        | shutdown receipt => exact ⟨receipt, ends, member⟩
        | _ => cases ends
    · rintro ⟨receipt, ends, member⟩
      exact .inr ⟨_, member, ends⟩
  case stoppable =>
    intro running receipt ends
    have going : l.stage ≠ .stopped := mt ended.mpr running
    simp [published, step, going, ends]
  case final =>
    intro stopped later
    have stage := ended.mp (path.eq_stopped_of_mem stopped)
    obtain ⟨stays, keeps, quiet⟩ := run_of_stopped stage later
    refine ⟨?_, keeps, quiet⟩
    have shown' : (l.run later).phase = (l.run later).stage.phase :=
      run_induction (motive := fun l => l.phase = l.stage.phase) shown (fun m _ _ _ => m.phase_eq)
    rw [shown', stays]
    rfl

/-- A tick, a fetch and a payload with a level and a ratio: both are committed. A shutdown
in place of the payload leaves all as it was. -/
theorem run_commits_whole_snapshots_after_fetch :
    let p := Pipeline.create ((LoggerTree.new .info).register "app" none)
    let c := Control.new p ⟨⟨0x3FD0000000000000⟩, 2305843009213693952⟩ .toml .single
    let payload := Text.octets
      "sampleRatio = 0.5\n[[logLevels]]\nlogger = \"app\"\nlevel = \"debug\"\n"
    let s : Snapshot := ⟨[⟨"app", "debug"⟩], [], some ⟨0x3FE0000000000000⟩, none⟩
    let l := (new c .absent).run [.tick, .startFetch]
    let done := (new c .absent).run [.tick, .startFetch, .fetched (.ok payload)]
    (l.stage = .fetching ∧ Snapshot.decode .toml .single "" payload = .ok ⟨s, []⟩) ∧
      (done.control.pipeline = p.apply s ∧ done.control.sampler =
        ⟨⟨0x3FE0000000000000⟩, 4611686018427387904⟩) ∧
      (p.apply s).tree.effective "app" = .debug ∧
      (l.step (.shutdown .signal)).1.control = c := by
  intro p c payload s l done
  have fetching : l.stage = .fetching := rfl
  have decodes : Snapshot.decode .toml .single "" payload = .ok ⟨s, []⟩ := by
    have read : (Snapshot.parse .toml payload).toOption = some s := by decide +kernel
    cases parsed : Snapshot.parse .toml payload with
    | error f =>
      rw [parsed] at read
      cases read
    | ok s' =>
      rw [parsed] at read
      obtain rfl := Option.some.inj read
      rw [Snapshot.decode, parsed]
      rfl
  obtain ⟨-, whole, -⟩ :=
    run_commits_whole_snapshots c .absent [.tick, .startFetch] (.fetched (.ok payload))
  obtain ⟨pipeline, sampler⟩ := whole payload ⟨s, []⟩ rfl fetching decodes
  have ratio : s.acceptedRatio? = some ⟨0x3FE0000000000000⟩ := by decide +kernel
  have cutPoint : Sampler.cutPointOf ⟨0x3FE0000000000000⟩ = 4611686018427387904 := by
    decide +kernel
  simp only [ratio, cutPoint] at sampler
  obtain ⟨-, -, abandoned, -⟩ :=
    run_commits_whole_snapshots c .absent [.tick, .startFetch] (.shutdown .signal)
  exact ⟨⟨fetching, decodes⟩, ⟨pipeline, sampler⟩, by decide +kernel, abandoned .signal rfl⟩

end ControlLoop

end TelemetryControl
