/-
TelemetryControl.Proofs.TraceScope.Guards — what guards leave behind.

A guard keeps the flag that it found, and puts it back when it is dropped.
As long as guards are dropped in the reverse order of their making, the flag
that comes back is the one before the first of them (`after_of_nested`). In
another order it need not be: a guard made inside another one and dropped after
it puts back the other's flag, although that guard is gone
(`flag_outlives_crossed_guards`).

What carries the general statement is that every live guard holds the flag
from just before it was made (`exists_split_of_live`). So once all guards
are gone, the flag is the one that the guard dropped last had found, and
the main result `sampled_after_drops` says of every order when that reads as
it did before.
-/
import TelemetryControl.TraceScope
import Mathlib.Data.List.Induction

namespace TelemetryControl

namespace TraceStep

/-- The guard that a step makes or drops. -/
def guard? : TraceStep → Option String
  | enter guard _ => some guard
  | leave guard => some guard
  | _ => none

/-- Guards dropped in the reverse order of their making. -/
inductive Nested : List TraceStep → Prop
  | nil : Nested []
  | guarded {guard : String} {sampled : Bool} {inside rest : List TraceStep}
      (own : ∀ s ∈ inside, s.guard? ≠ some guard) (nested : Nested inside) (further : Nested rest) :
      Nested (enter guard sampled :: (inside ++ leave guard :: rest))

end TraceStep

namespace TraceState

open TraceStep (Nested)

variable {t : TraceState} {steps : List TraceStep}

/-- The state after steps that run outside any task scope. -/
def after (t : TraceState) (steps : List TraceStep) : TraceState :=
  (TraceStep.runAll none t steps).1

/-- The flag that a live guard of a name will put back. -/
def held? (t : TraceState) (guard : String) : Option (Option Bool) :=
  t.guards.lookup guard

/-! ## 1. Single steps -/

@[simp] theorem after_nil (t : TraceState) : t.after [] = t := rfl

theorem after_cons (t : TraceState) (s : TraceStep) (rest : List TraceStep) :
    t.after (s :: rest) = (s.run t).1.after rest := rfl

theorem after_append (t : TraceState) (steps rest : List TraceStep) :
    t.after (steps ++ rest) = (t.after steps).after rest := by
  induction steps generalizing t with
  | nil => rfl
  | cons s steps ih => rw [List.cons_append, after_cons, after_cons, ih]

theorem after_concat (t : TraceState) (steps : List TraceStep) (s : TraceStep) :
    t.after (steps ++ [s]) = (s.run (t.after steps)).1 :=
  after_append t steps [s]

theorem lookup_cons_eq_ite {α : Type} (name other : String) (flag : α)
    (guards : List (String × α)) :
    ((name, flag) :: guards).lookup other =
      if other = name then some flag else guards.lookup other := by
  by_cases same : other = name
  · simp [same]
  · simp [List.lookup_cons, beq_eq_false_iff_ne.mpr same, same]

theorem lookup_filter_ne {α : Type} (guards : List (String × α)) (guard other : String) :
    (guards.filter (fun g => g.1 != guard)).lookup other =
      if other = guard then none else guards.lookup other := by
  induction guards with
  | nil => simp
  | cons g rest ih =>
    obtain ⟨name, flag⟩ := g
    by_cases dropped : name = guard
    · subst dropped
      simp only [bne_self_eq_false, Bool.false_eq_true, not_false_eq_true, List.filter_cons_of_neg,
        ih, lookup_cons_eq_ite]
      split <;> rfl
    · rw [List.filter_cons_of_pos (by simpa using dropped), lookup_cons_eq_ite,
        lookup_cons_eq_ite, ih]
      by_cases found : other = name
      · simp [found, dropped]
      · simp [found]

theorem held?_leave (t : TraceState) (guard other : String) :
    (t.leave guard).held? other = if other = guard then none else t.held? other := by
  unfold TraceState.leave held?
  split
  · next absent =>
    split
    · next same => rw [same, absent]
    · rfl
  · exact lookup_filter_ne t.guards guard other

theorem leave_of_held?_eq_none {guard : String} (absent : t.held? guard = none) :
    t.leave guard = t := by
  unfold held? at absent
  simp [TraceState.leave, absent]

theorem thread_leave {guard : String} {flag : Option Bool} (live : t.held? guard = some flag) :
    (t.leave guard).thread = flag := by
  unfold held? at live
  simp [TraceState.leave, live]

theorem held?_enter (t : TraceState) (guard other : String) (sampled : Bool) :
    (t.enter guard sampled).held? other =
      if other = guard then some t.thread else t.held? other := by
  have cleared := held?_leave ⟨some sampled, t.guards⟩ guard other
  unfold held? at cleared ⊢
  simp only [TraceState.enter, lookup_cons_eq_ite, cleared]
  split <;> rfl

/-- Making a guard of a new name and dropping it changes nothing. -/
theorem leave_enter {guard : String} (absent : t.held? guard = none) (sampled : Bool) :
    (t.enter guard sampled).leave guard = t := by
  have others : t.guards.filter (fun g => g.1 != guard) = t.guards := by
    refine List.filter_eq_self.mpr (fun g member => ?_)
    have apart : (guard == g.1) = false := by
      simpa using List.lookup_eq_none_iff.mp absent g member
    exact bne_iff_ne.mpr fun same => by simp [same] at apart
  have made : t.enter guard sampled = ⟨some sampled, (guard, t.thread) :: t.guards⟩ := by
    have kept : (⟨some sampled, t.guards⟩ : TraceState).leave guard = ⟨some sampled, t.guards⟩ :=
      leave_of_held?_eq_none absent
    simp [TraceState.enter, kept]
  simp [made, TraceState.leave, others]

/-- A step leaves the guards of other names alone. -/
theorem held?_run {s : TraceStep} {guard : String} (guards : s.guard? ≠ none)
    (other : s.guard? ≠ some guard) : (s.run t).1.held? guard = t.held? guard := by
  cases s with
  | enter name sampled =>
    have apart : guard ≠ name := fun same => other (same ▸ rfl)
    exact (held?_enter t name guard sampled).trans (if_neg apart)
  | leave name =>
    have apart : guard ≠ name := fun same => other (same ▸ rfl)
    exact (held?_leave t name guard).trans (if_neg apart)
  | _ => exact absurd rfl guards

theorem held?_after {guard : String} (guards : ∀ s ∈ steps, s.guard? ≠ none)
    (other : ∀ s ∈ steps, s.guard? ≠ some guard) :
    (t.after steps).held? guard = t.held? guard := by
  induction steps generalizing t with
  | nil => rfl
  | cons s rest ih =>
    rw [after_cons, ih (fun r hr => guards r (.tail _ hr)) (fun r hr => other r (.tail _ hr)),
      held?_run (guards s (.head _)) (other s (.head _))]

/-! ## 2. Guards in nested order -/

/-- Nested guards of new names leave no trace. -/
theorem after_of_nested (nested : Nested steps)
    (new : ∀ s ∈ steps, ∀ guard ∈ s.guard?, t.held? guard = none) : t.after steps = t := by
  induction nested generalizing t with
  | nil => rfl
  | @guarded guard sampled inside rest own nested further ihInside ihRest =>
    have absent : t.held? guard = none := new _ (.head _) guard rfl
    have insideDone : (t.enter guard sampled).after inside = t.enter guard sampled := by
      refine ihInside (fun s member name named => ?_)
      have apart : name ≠ guard := fun same => own s member (same ▸ named)
      rw [held?_enter, if_neg apart]
      exact new s (.tail _ (List.mem_append_left _ member)) name named
    have restDone : t.after rest = t := ihRest (fun s member =>
      new s (.tail _ (List.mem_append_right _ (.tail _ member))))
    rw [after_cons, after_append, after_cons]
    show (((t.enter guard sampled).after inside).leave guard).after rest = t
    rw [insideDone, leave_enter absent, restDone]

/-! ## 3. Guards in any order -/

/-- Every live guard holds the flag from just before it was made. -/
theorem exists_split_of_live {guard : String} {flag : Option Bool}
    (guards : ∀ s ∈ steps, s.guard? ≠ none) (new : t.held? guard = none)
    (live : (t.after steps).held? guard = some flag) :
    ∃ before sampled between, steps = before ++ .enter guard sampled :: between ∧
      (∀ s ∈ between, s.guard? ≠ some guard) ∧ (t.after before).thread = flag := by
  -- Seen from the end of the run: a step of the guard's own decides, and any
  -- other one joins what lies between.
  induction steps using List.reverseRecOn with
  | nil =>
    rw [after_nil, new] at live
    cases live
  | append_singleton steps s ih =>
    rw [after_concat] at live
    by_cases own : s.guard? = some guard
    · cases s with
      | enter name sampled =>
        obtain rfl := Option.some.inj own
        have found := (held?_enter (t.after steps) name name sampled).symm.trans live
        rw [if_pos rfl] at found
        exact ⟨steps, sampled, [], rfl, by simp, Option.some.inj found⟩
      | leave name =>
        obtain rfl := Option.some.inj own
        have found := (held?_leave (t.after steps) name name).symm.trans live
        rw [if_pos rfl] at found
        cases found
      | _ => cases own
    · rw [held?_run (guards s (by simp)) own] at live
      obtain ⟨before, sampled, between, rfl, others, found⟩ :=
        ih (fun r hr => guards r (List.mem_append_left _ hr)) live
      refine ⟨before, sampled, between ++ [s], by simp, fun r member => ?_, found⟩
      rcases List.mem_append.mp member with member | member
      · exact others r member
      · rwa [List.mem_singleton.mp member]

/-- Steps that make guards of new names, and that have dropped them all by their
end. -/
structure Settles (t : TraceState) (steps : List TraceStep) : Prop where
  guards : ∀ s ∈ steps, s.guard? ≠ none
  new : ∀ s ∈ steps, ∀ guard ∈ s.guard?, t.held? guard = none
  dropped : ∀ s ∈ steps, ∀ guard ∈ s.guard?, (t.after steps).held? guard = none

/-- The guard that is dropped last was made right after `before`: what follows its
drop finds no guard to drop. -/
def LastMadeAfter (t : TraceState) (steps before : List TraceStep) : Prop :=
  ∃ guard sampled between rest,
    steps = before ++ .enter guard sampled :: (between ++ .leave guard :: rest) ∧
    (∀ s ∈ between, s.guard? ≠ some guard) ∧
    ∀ s ∈ rest, ∃ name, s = .leave name ∧
      (t.after (before ++ .enter guard sampled :: (between ++ [.leave guard]))).held? name = none

theorem after_of_absent
    (absent : ∀ s ∈ steps, ∃ name, s = .leave name ∧ t.held? name = none) :
    t.after steps = t := by
  induction steps with
  | nil => rfl
  | cons s rest ih =>
    obtain ⟨name, rfl, gone⟩ := absent s (.head _)
    rw [after_cons]
    show (t.leave name).after rest = t
    rw [leave_of_held?_eq_none gone, ih (fun r hr => absent r (.tail _ hr))]

/-- The drop of the guard that goes last is the last step that counts. -/
theorem after_eq_of_rest {before between rest : List TraceStep} {guard : String} {sampled : Bool}
    (quiet : ∀ s ∈ rest, ∃ name, s = .leave name ∧
      (t.after (before ++ .enter guard sampled :: (between ++ [.leave guard]))).held? name = none) :
    t.after (before ++ .enter guard sampled :: (between ++ .leave guard :: rest)) =
      t.after (before ++ .enter guard sampled :: (between ++ [.leave guard])) := by
  have split : before ++ TraceStep.enter guard sampled :: (between ++ .leave guard :: rest) =
      (before ++ .enter guard sampled :: (between ++ [.leave guard])) ++ rest := by simp
  rw [split, after_append, after_of_absent quiet]

/-- The flag that the guard dropped last had found is the one that stays. -/
theorem thread_of_lastMadeAfter {before : List TraceStep}
    (guards : ∀ s ∈ steps, s.guard? ≠ none) (last : LastMadeAfter t steps before) :
    (t.after steps).thread = (t.after before).thread := by
  obtain ⟨guard, sampled, between, rest, rfl, others, quiet⟩ := last
  have split : before ++ TraceStep.enter guard sampled :: (between ++ [.leave guard]) =
      (before ++ [.enter guard sampled] ++ between) ++ [.leave guard] := by simp
  have made : (t.after (before ++ [.enter guard sampled])).held? guard =
      some (t.after before).thread := by
    rw [after_concat]
    exact (held?_enter (t.after before) guard guard sampled).trans (if_pos rfl)
  have live : (t.after (before ++ [.enter guard sampled] ++ between)).held? guard =
      some (t.after before).thread := by
    rw [after_append, held?_after (fun s member => guards s (by simp [member])) others, made]
  rw [after_eq_of_rest quiet, split, after_concat]
  exact thread_leave live

theorem Settles.exists_lastMadeAfter (settles : Settles t steps) :
    t.after steps = t ∨ ∃ before, LastMadeAfter t steps before := by
  -- Seen from the end of the run: drops that find no guard are passed over, the
  -- first one that does is the one looked for, and no guard is made on the way,
  -- for it would still be there.
  induction steps using List.reverseRecOn with
  | nil => exact .inl rfl
  | append_singleton steps s ih =>
    obtain ⟨guards, new, dropped⟩ := settles
    have gone := dropped s (by simp)
    rw [after_concat] at gone
    cases s with
    | enter name sampled =>
      have live := held?_enter (t.after steps) name name sampled
      rw [if_pos rfl] at live
      exact absurd (live.symm.trans (gone name rfl)) (by simp)
    | leave name =>
      cases held : (t.after steps).held? name with
      | some flag =>
        have absent := new (.leave name) (by simp) name rfl
        obtain ⟨before, sampled, between, rfl, others, -⟩ :=
          exists_split_of_live (fun r hr => guards r (List.mem_append_left _ hr)) absent held
        exact .inr ⟨before, name, sampled, between, [], by simp, others, by simp⟩
      | none =>
        have same : t.after (steps ++ [.leave name]) = t.after steps := by
          rw [after_concat]
          exact leave_of_held?_eq_none held
        have inner : Settles t steps :=
          ⟨fun r hr => guards r (List.mem_append_left _ hr),
            fun r hr => new r (List.mem_append_left _ hr),
            fun r hr => same ▸ dropped r (List.mem_append_left _ hr)⟩
        rcases ih inner with unchanged | ⟨before, guard, sampled, between, rest, rfl, others, quiet⟩
        · exact .inl (same.trans unchanged)
        · refine .inr ⟨before, guard, sampled, between, rest ++ [.leave name], by simp, others, ?_⟩
          intro r member
          rcases List.mem_append.mp member with member | member
          · exact quiet r member
          · rw [after_eq_of_rest quiet] at held
            exact ⟨name, List.mem_singleton.mp member, held⟩
    | _ => exact absurd rfl (guards _ (List.mem_append_right _ (.head _)))

/-- **Where all guards are dropped, the one dropped last has the final say.**
Dropped in the reverse order of their making, guards leave the flag that was
there before any of them. In whatever order they are dropped, what the flag
reads once all are gone is what it read when the guard dropped last was
made. -/
theorem sampled_after_drops (settles : Settles t steps) :
    (Nested steps → (t.after steps).sampled none = t.sampled none) ∧
    (t.after steps = t ∨ ∃ before, LastMadeAfter t steps before ∧
      (t.after steps).sampled none = (t.after before).sampled none) := by
  constructor
  · intro nested
    rw [after_of_nested nested settles.new]
  · rcases settles.exists_lastMadeAfter with unchanged | ⟨before, last⟩
    · exact .inl unchanged
    · refine .inr ⟨before, last, ?_⟩
      rw [sampled, sampled, thread_of_lastMadeAfter settles.guards last]

/-- Inside a guard that stays, with a name that is used twice. -/
theorem sampled_after_drops_inside_request :
    let t : TraceState := ⟨some true, [("request", none)]⟩
    let steps : List TraceStep :=
      [.enter "a" false, .enter "b" true, .leave "b", .leave "a", .enter "a" false, .leave "a"]
    (Settles t steps ∧ Nested steps) ∧ (t.after steps).sampled none = true ∧
      (t.after steps = t ∨ ∃ before, LastMadeAfter t steps before ∧
        (t.after steps).sampled none = (t.after before).sampled none) := by
  intro t steps
  have settles : Settles t steps := ⟨by decide, by decide, by decide⟩
  have inner : Nested (.enter "b" true :: ([] ++ .leave "b" :: [])) := .guarded (by simp) .nil .nil
  have again : Nested (.enter "a" false :: ([] ++ .leave "a" :: [])) :=
    .guarded (by simp) .nil .nil
  have nested : Nested (.enter "a" false :: ([.enter "b" true, .leave "b"] ++
      .leave "a" :: [.enter "a" false, .leave "a"])) := .guarded (by decide) inner again
  obtain ⟨restored, last⟩ := sampled_after_drops settles
  exact ⟨⟨settles, nested⟩, restored nested, last⟩

/-- A guard dropped after the one it was made in puts back the flag of that one,
and the thread reads as sampled with no guard left. -/
theorem flag_outlives_crossed_guards :
    let steps : List TraceStep :=
      [.enter "a" true, .enter "b" false, .leave "a", .leave "b"]
    Settles initial steps ∧ (initial.after steps).guards = [] ∧
      initial.sampled none = false ∧ (initial.after steps).sampled none = true := by
  intro steps
  exact ⟨⟨by decide, by decide, by decide⟩, by decide, rfl, rfl⟩

end TraceState

end TelemetryControl
