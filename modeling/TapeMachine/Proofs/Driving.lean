/-
**What drives a session.**

The clock drives a session from the moment it is started until its run is over.  The scheduler knows
nothing of the run, so somebody has to tell it: a session whose run is over is not started, a poll
lets go of the run when it is over, and whatever starts the run over or takes it to its end lets go
of it first.  A step by hand does not.  If it ends a run that the clock drives, the session is over
and is still said to be running, and so it stays until anything but another step is done to it.

This module says of every operation whether the session is driven after it.  It follows that a
step by hand, on a session that is driven, is the only way to a session that is over and driven.

Main definitions:

* `TapeMachine.Session.EndedByHand` — after some operations the clock drives the session, a step by
  hand ends its run, and nothing but steps by hand comes after it.

Main results:

* `TapeMachine.Session.isRunning_tick` — **a poll lets go of a run that is over**, and of no other;
* `TapeMachine.Session.isRunning_perform` — what drives a session after each operation;
* `TapeMachine.Session.done_and_isRunning_iff` — when a session that is over is driven;
* `TapeMachine.Session.clock_drives_finished_run` — that this does happen.
-/

import Mathlib.Data.List.Induction
import TapeMachine.Proofs.Replay

set_option relaxedAutoImplicit false
set_option autoImplicit false

namespace TapeMachine

namespace Scheduler

theorem pause_of_idle {s : Scheduler} (h : s.isRunning = false) : s.pause = s := by
  obtain ⟨active, maxBatch⟩ := s
  cases active with
  | none => rfl
  | some run => cases h

/-- Handing out ticks neither starts a run nor ends one. -/
theorem isRunning_due (s : Scheduler) (now : Nat) : (s.due now).1.isRunning = s.isRunning := by
  obtain ⟨active, maxBatch⟩ := s
  cases active with
  | none => rfl
  | some run =>
      simp only [due]
      split
      · rfl
      · split <;> rfl

/-- There is a cadence, and a deadline, as long as a run is paced. -/
theorem cadence?_deadline?_eq_none_iff (s : Scheduler) :
    s.cadence? = none ∧ s.deadline? = none ↔ s.isRunning = false := by
  simp [cadence?, deadline?, isRunning]

end Scheduler

namespace Session

/-! ### Steps leave the scheduler alone -/

theorem scheduler_of_step {s t : Session} {o : Outcome} (h : s.step = .ok (t, o)) :
    t.scheduler = s.scheduler := by
  obtain ⟨program, machine, delays, state, scheduler, taken⟩ := s
  simp only [step] at h
  split at h
  · cases h
  · cases h
    rfl

theorem scheduler_of_stepDue {n applied k : Nat} {s t : Session}
    (h : stepDue n applied s = .ok (t, k)) : t.scheduler = s.scheduler := by
  induction n generalizing s applied with
  | zero =>
      cases h
      rfl
  | succ n ih =>
      simp only [stepDue] at h
      split at h
      · cases h
      · rename_i u o hs
        rw [← scheduler_of_step hs]
        split at h
        · split at h
          · cases h
            rfl
          · exact ih h
        · cases h
          rfl

theorem scheduler_of_follow {α : Type} {limits : Limits} {observe : α → State → Outcome → α}
    {fuel taken : Nat} {seen : α} {s : Session} {f : Followed α}
    (h : follow limits observe fuel taken seen s = .ok f) :
    f.session.scheduler = s.scheduler := by
  induction fuel generalizing s taken seen with
  | zero =>
      unfold follow at h
      split at h
      · cases h
        rfl
      · split at h <;> cases h <;> rfl
  | succ fuel ih =>
      unfold follow at h
      split at h
      · cases h
        rfl
      · split at h
        · cases h
          rfl
        · dsimp only at h
          split at h
          · cases h
          · rename_i u o hs
            rw [← scheduler_of_step hs]
            exact ih h

/-! ### Each operation -/

theorem isRunning_start (s : Session) (cadence : Cadence) (now : Nat) :
    (s.start cadence now).isRunning = !s.state.done := by
  unfold start
  split
  · rename_i h
    rw [h]
    rfl
  · rename_i h
    rw [Bool.not_eq_true] at h
    rw [h]
    rfl

/-- **A poll lets go of a run that is over**, and of no other. -/
theorem isRunning_tick {s t : Session} {now k : Nat} (h : s.tick now = .ok (t, k)) :
    t.isRunning = (s.isRunning && !t.state.done) := by
  have hdue : (s.scheduler.due now).1.isRunning = s.isRunning := Scheduler.isRunning_due ..
  simp only [tick] at h
  split at h
  · cases h
  · rename_i u applied hsteps
    have hu : u.isRunning = s.isRunning := by
      rw [← hdue, isRunning, scheduler_of_stepDue hsteps]
    cases h
    split
    · rename_i hdone
      have hpause : u.pause.state.done = true := hdone
      rw [hpause, Bool.not_true, Bool.and_false]
      rfl
    · rename_i hdone
      rw [Bool.not_eq_true] at hdone
      rw [hdone, hu, Bool.not_false, Bool.and_true]

/-- A poll of a session that the clock does not drive does nothing. -/
theorem tick_of_paused {s : Session} (h : s.isRunning = false) (now : Nat) :
    s.tick now = .ok (s, 0) := by
  have hactive : s.scheduler.active = none := Option.not_isSome_iff_eq_none.mp (by
    rw [← Scheduler.isRunning, ← isRunning, h]
    exact Bool.false_ne_true)
  have hpause : s.pause = s := by rw [pause, Scheduler.pause_of_idle h]
  simp only [tick, Scheduler.due_of_idle hactive, stepDue_zero, hpause, ite_self]

theorem stepDue_of_done {s : Session} (h : s.state.done = true) (n applied : Nat) :
    stepDue n applied s = .ok (s, applied) := by
  cases n with
  | zero => rfl
  | succ n =>
      rw [stepDue, step_eq_ok (State.step_of_done h)]
      rfl

/-- A poll of a session that is over takes no step and lets go of it. -/
theorem tick_of_done {s : Session} (h : s.state.done = true) (now : Nat) :
    s.tick now = .ok (s.pause, 0) := by
  have hsteps : stepDue (s.scheduler.due now).2 0 { s with scheduler := (s.scheduler.due now).1 } =
      .ok ({ s with scheduler := (s.scheduler.due now).1 }, 0) := by
    apply stepDue_of_done
    exact h
  have hpause : (s.scheduler.due now).1.pause = s.scheduler.pause := by
    simp [Scheduler.pause]
  simp only [tick, hsteps, h, if_true, pause, hpause]

theorem isRunning_runObserved {α : Type} {s : Session} {limits : Limits}
    {observe : α → State → Outcome → α} {init : α} {fuel : Nat} {f : Followed α}
    (h : s.runObserved limits observe init fuel = .ok f) : f.session.isRunning = false := by
  rw [isRunning, scheduler_of_follow h]
  rfl

/-- **What drives a session after an operation**: a step leaves that as it was, a start depends on
the run alone, a poll lets go of a run that is over, and all else lets go of every run. -/
theorem isRunning_perform {s t : Session} {o : Operation} (h : s.perform o = .ok t) :
    t.isRunning = match o with
      | .step => s.isRunning
      | .start .. => !t.state.done
      | .tick _ => s.isRunning && !t.state.done
      | _ => false := by
  cases o with
  | step =>
      obtain ⟨⟨u, outcome⟩, hs, rfl⟩ := map_eq_ok_iff.mp h
      exact congrArg Scheduler.isRunning (scheduler_of_step hs)
  | start cadence now =>
      have hstate : (s.start cadence now).state = s.state := by
        unfold start
        split <;> rfl
      cases h
      rw [isRunning_start, hstate]
  | pause | reset | replace source =>
      cases h
      rfl
  | tick now =>
      obtain ⟨⟨u, k⟩, ht, rfl⟩ := map_eq_ok_iff.mp h
      exact isRunning_tick ht
  | runToEnd limits fuel =>
      obtain ⟨⟨u, ending⟩, hr, rfl⟩ := map_eq_ok_iff.mp h
      obtain ⟨f, hf, hu⟩ := map_eq_ok_iff.mp hr
      cases hu
      exact isRunning_runObserved hf
  | runObserved limits observe init fuel =>
      obtain ⟨f, hf, rfl⟩ := map_eq_ok_iff.mp h
      exact isRunning_runObserved hf

/-- One operation leads to a session that is over and driven exactly when it is a step by hand on a
session that is driven. -/
theorem done_and_isRunning_perform_iff {s t : Session} {o : Operation} (h : s.perform o = .ok t) :
    t.state.done = true ∧ t.isRunning = true ↔
      o = .step ∧ s.isRunning = true ∧ t.state.done = true := by
  have hr := isRunning_perform h
  cases o with
  | step => rw [hr, and_comm, eq_self_iff_true, true_and]
  | start cadence now => simp [hr]
  | tick now => cases hd : t.state.done <;> simp [hr, hd]
  | pause | reset | replace source | runToEnd limits fuel
  | runObserved limits observe init fuel => simp [hr]

/-! ### Sequences of operations -/

/-- After some of the operations the clock drives the session, the next one is a step by hand that
ends its run, and all others are steps by hand. -/
def EndedByHand (s : Session) (ops : List Operation) : Prop :=
  ∃ before n t u o, ops = before ++ .step :: List.replicate n .step ∧
    s.performAll before = .ok t ∧ t.isRunning = true ∧ t.state.done = false ∧
    t.step = .ok (u, o) ∧ u.state.done = true

theorem performAll_snoc {s t : Session} {ops : List Operation} (h : s.performAll ops = .ok t)
    (o : Operation) : s.performAll (ops ++ [o]) = t.perform o := by
  rw [performAll_append h]
  simp only [performAll]
  cases t.perform o <;> rfl

theorem endedByHand_snoc_iff {s t : Session} {ops : List Operation} (h : s.performAll ops = .ok t)
    (o : Operation) :
    s.EndedByHand (ops ++ [o]) ↔ o = .step ∧ (s.EndedByHand ops ∨
      t.isRunning = true ∧ t.state.done = false ∧
        ∃ u outcome, t.step = .ok (u, outcome) ∧ u.state.done = true) := by
  constructor
  · rintro ⟨before, n, t', u, outcome, hops, ht', hrunning, hgoing, hstep, hdone⟩
    cases n with
    | zero =>
        obtain ⟨rfl, ho⟩ := List.append_inj' hops rfl
        cases ht'.symm.trans h
        exact ⟨List.singleton_inj.mp ho, .inr ⟨hrunning, hgoing, u, outcome, hstep, hdone⟩⟩
    | succ n =>
        rw [List.replicate_succ', ← List.cons_append, ← List.append_assoc] at hops
        obtain ⟨hops, ho⟩ := List.append_inj' hops rfl
        exact ⟨List.singleton_inj.mp ho,
          .inl ⟨before, n, t', u, outcome, hops, ht', hrunning, hgoing, hstep, hdone⟩⟩
  · rintro ⟨rfl, ⟨before, n, t', u, outcome, rfl, hrest⟩ | ⟨hrunning, hgoing, u, outcome, hstep⟩⟩
    · refine ⟨before, n + 1, t', u, outcome, ?_, hrest⟩
      rw [List.replicate_succ', ← List.cons_append, ← List.append_assoc]
    · exact ⟨ops, 0, t, u, outcome, rfl, h, hrunning, hgoing, hstep⟩

/-- **When a session that is over is driven**: when a step by hand ended a run that the clock drove,
and nothing but steps by hand came after it. -/
theorem done_and_isRunning_iff {source : String} {m : Machine} {d : Delays} {ops : List Operation}
    {s : Session} (h : (load source m d).performAll ops = .ok s) :
    s.state.done = true ∧ s.isRunning = true ↔ (load source m d).EndedByHand ops := by
  -- the induction is on the last operation, which has to be a step by hand
  induction ops using List.reverseRecOn generalizing s with
  | nil =>
      cases h
      constructor
      · rintro ⟨-, hrunning⟩
        cases hrunning
      · rintro ⟨before, n, t, u, o, hops, -⟩
        simp at hops
  | append_singleton ops o ih =>
      obtain ⟨t, ht, -⟩ := exists_performAll source m d ops
      have ih := ih ht
      rw [performAll_snoc ht] at h
      rw [done_and_isRunning_perform_iff h, endedByHand_snoc_iff ht]
      refine and_congr_right fun ho => ?_
      subst ho
      obtain ⟨⟨u, outcome⟩, hstep, rfl⟩ := map_eq_ok_iff.mp h
      constructor
      · rintro ⟨hrunning, hdone⟩
        cases hgoing : t.state.done with
        | true => exact .inl (ih.mp ⟨hgoing, hrunning⟩)
        | false => exact .inr ⟨hrunning, rfl, u, outcome, hstep, hdone⟩
      · rintro (hended | ⟨hrunning, -, u', outcome', hstep', hdone⟩)
        · obtain ⟨hdone, hrunning⟩ := ih.mpr hended
          rw [step_eq_ok (State.step_of_done hdone)] at hstep
          cases hstep
          exact ⟨hrunning, hdone⟩
        · cases hstep.symm.trans hstep'
          exact ⟨hrunning, hdone⟩

/-- **A session that is over is not driven**, and has neither a cadence nor a deadline, whatever was
done to it: unless a step by hand ended a run that the clock drove, and nothing but steps by hand
came after it.  Then, and only then, the session is over and driven, until the next poll, which
takes no step and lets go of it. -/
theorem finished_session_driven_only_when_ended_by_hand (source : String) (m : Machine)
    (d : Delays) (ops : List Operation) :
    ∃ s, (load source m d).performAll ops = .ok s ∧
      (s.state.done = true → ¬(load source m d).EndedByHand ops →
        s.isRunning = false ∧ s.scheduler.cadence? = none ∧ s.scheduler.deadline? = none) ∧
      ((load source m d).EndedByHand ops →
        s.state.done = true ∧ s.isRunning = true ∧ ∀ now, s.tick now = .ok (s.pause, 0)) := by
  obtain ⟨s, hs, -⟩ := exists_performAll source m d ops
  have hiff := done_and_isRunning_iff hs
  refine ⟨s, hs, ?_, ?_⟩
  · intro hdone hended
    have hidle : s.isRunning = false := by
      rw [← Bool.not_eq_true]
      intro hrunning
      exact hended (hiff.mp ⟨hdone, hrunning⟩)
    exact ⟨hidle, (Scheduler.cadence?_deadline?_eq_none_iff s.scheduler).mpr hidle⟩
  · intro hended
    obtain ⟨hdone, hrunning⟩ := hiff.mpr hended
    exact ⟨hdone, hrunning, tick_of_done hdone⟩

/-- The clock drives a run of a single instruction, a step by hand executes it, and the run that is
over still has its cadence and its deadline. -/
theorem clock_drives_finished_run :
    ∃ s, (load "+" Machine.standard Delays.standard).performAll [.start .normal 0, .step] = .ok s ∧
      s.state.done = true ∧ s.isRunning = true ∧ s.scheduler.cadence? = some .normal ∧
      s.scheduler.deadline? = some 25000000 :=
  ⟨_, rfl, rfl, rfl, rfl, rfl⟩

end Session

end TapeMachine
