/-
**A session is a replay of its program.**

A session is driven in many ways: by hand, by the clock, to the end under limits, and it is reset
and given new programs in between.  Whatever was done to it, its state is the one that its program
reaches, from the beginning, in the number of steps that the session has counted, and every step
that was counted did something.  So a session that was reset is a fresh one, and two sessions of one
program that are both over are over in the same state after the same number of steps.

Main definitions:

* `TapeMachine.Session.Operation`, `TapeMachine.Session.performAll` — what can be done to a session,
  and doing it;
* `TapeMachine.Session.lastSource` — the source text that was taken up last;
* `TapeMachine.Session.Replays` — the state of a session is that of a run of its program.

Main results:

* `TapeMachine.Session.performAll_invariant` — what every operation keeps, all operations keep;
* `TapeMachine.Session.Replays.perform` — **every operation succeeds and keeps a session a replay**;
* `TapeMachine.Session.session_is_a_replay` — every session is a replay, and what follows.
-/

import TapeMachine.Proofs.Validity
import TapeMachine.Session

set_option relaxedAutoImplicit false
set_option autoImplicit false

namespace TapeMachine

namespace Session

/-! ### Operations -/

/-- What can be done to a session.  A run to the end is followed through at most `fuel` steps: one
that comes to an end is followed far enough, and one that is given up from outside, after some
steps, is followed that far. -/
inductive Operation : Type 1 where
  | step
  | start (cadence : Cadence) (now : Nat)
  | pause
  | tick (now : Nat)
  | reset
  | replace (source : String)
  | runToEnd (limits : Limits) (fuel : Nat)
  | runObserved {α : Type} (limits : Limits) (observe : α → State → Outcome → α) (init : α)
      (fuel : Nat)

/-- The session after an operation. -/
def perform (s : Session) : Operation → Except Breach Session
  | .step => s.step.map Prod.fst
  | .start cadence now => .ok (s.start cadence now)
  | .pause => .ok s.pause
  | .tick now => (s.tick now).map Prod.fst
  | .reset => .ok s.reset
  | .replace source => .ok (s.replace source)
  | .runToEnd limits fuel => (s.runToEnd limits fuel).map Prod.fst
  | .runObserved limits observe init fuel =>
      (s.runObserved limits observe init fuel).map Followed.session

/-- The session after a sequence of operations. -/
def performAll (s : Session) : List Operation → Except Breach Session
  | [] => .ok s
  | o :: rest =>
    match s.perform o with
    | .error b => .error b
    | .ok t => t.performAll rest

/-- The source text a session holds after an operation. -/
def Operation.sourceAfter (source : String) : Operation → String
  | .replace new => new
  | _ => source

/-- The source text that was taken up last. -/
def lastSource (source : String) (ops : List Operation) : String :=
  ops.foldl Operation.sourceAfter source

theorem performAll_cons {s t : Session} {o : Operation} (h : s.perform o = .ok t)
    (rest : List Operation) : s.performAll (o :: rest) = t.performAll rest := by
  simp only [performAll, h]

theorem performAll_append {s t : Session} {ops : List Operation} (h : s.performAll ops = .ok t)
    (ops' : List Operation) : s.performAll (ops ++ ops') = t.performAll ops' := by
  induction ops generalizing s with
  | nil =>
      cases h
      rfl
  | cons o rest ih =>
      rw [List.cons_append]
      simp only [performAll] at h ⊢
      cases hp : s.perform o with
      | error b =>
          rw [hp] at h
          cases h
      | ok u =>
          rw [hp] at h
          exact ih h

/-- **What every operation keeps, all operations keep.**  The property may speak of the source text
that was taken up last. -/
theorem performAll_invariant {P : String → Session → Prop}
    (keep : ∀ source s o, P source s → ∃ t, s.perform o = .ok t ∧ P (o.sourceAfter source) t)
    {source : String} {s : Session} (h : P source s) (ops : List Operation) :
    ∃ t, s.performAll ops = .ok t ∧ P (lastSource source ops) t := by
  induction ops generalizing source s with
  | nil => exact ⟨s, rfl, h⟩
  | cons o rest ih =>
      obtain ⟨t, ht, hP⟩ := keep source s o h
      rw [performAll_cons ht]
      exact ih hP

/-! ### Replays -/

/-- The session holds the program of the source text, on the given machine and with the given
delays, and its state is the one that the program reaches in as many steps as were counted. -/
structure Replays (source : String) (m : Machine) (d : Delays) (s : Session) : Prop where
  program : s.program = Program.ofSource source
  machine : s.machine = m
  delays : s.delays = d
  state : (State.start s.program s.machine).after s.program s.taken = .ok s.state
  /-- No step was counted that found the run over. -/
  progress : ∀ k < s.taken, ∀ t, (State.start s.program s.machine).after s.program k = .ok t →
    t.done = false
  /-- Sessions have the standard batch. -/
  maxBatch : s.scheduler.maxBatch = Scheduler.defaultMaxBatch

theorem replays_load (source : String) (m : Machine) (d : Delays) :
    (load source m d).Replays source m d where
  program := rfl
  machine := rfl
  delays := rfl
  state := rfl
  progress k hk := absurd hk (Nat.not_lt_zero k)
  maxBatch := rfl

/-- A step of a session is a step of its state, counted when it makes progress. -/
theorem step_eq_ok {s : Session} {t : State} {o : Outcome}
    (h : s.state.step s.program = .ok (t, o)) :
    s.step = .ok ({ s with state := t, taken := if o.madeProgress then s.taken + 1 else s.taken },
      o) := by
  obtain ⟨program, machine, delays, state, scheduler, taken⟩ := s
  have h : state.step program = .ok (t, o) := h
  simp only [step, h]

namespace Replays

variable {source : String} {m : Machine} {d : Delays} {s : Session}

theorem valid (h : s.Replays source m d) : s.state.Valid s.program s.machine :=
  State.valid_of_after h.state

/-- What drives a session has no part in its state. -/
theorem withScheduler (h : s.Replays source m d) {scheduler : Scheduler}
    (hb : scheduler.maxBatch = Scheduler.defaultMaxBatch) :
    Replays source m d { s with scheduler := scheduler } :=
  ⟨h.program, h.machine, h.delays, h.state, h.progress, hb⟩

theorem pause (h : s.Replays source m d) : s.pause.Replays source m d :=
  h.withScheduler h.maxBatch

/-- **A step keeps a session a replay**, whether it makes progress or finds the run over. -/
theorem step (h : s.Replays source m d) :
    ∃ t o, s.step = .ok (t, o) ∧ t.Replays source m d := by
  obtain ⟨t, o, hs⟩ := h.valid.exists_step
  refine ⟨_, o, step_eq_ok hs, ?_⟩
  have hnext := State.after_succ_last h.state
  rw [State.next_eq_ok_iff.mpr ⟨o, hs⟩] at hnext
  -- the step that is counted found the run going
  have hcount : s.state.done = false →
      Replays source m d { s with state := t, taken := s.taken + 1 } := by
    intro going
    refine ⟨h.program, h.machine, h.delays, hnext, fun k hk u hu => ?_, h.maxBatch⟩
    rcases Nat.lt_or_eq_of_le (Nat.le_of_lt_succ hk) with hk | hk
    · exact h.progress k hk u hu
    · have hu : (State.start s.program s.machine).after s.program k = .ok u := hu
      rw [hk, h.state] at hu
      cases hu
      exact going
  cases State.step_eq_ok_iff.mp hs with
  | frozen ended => exact ⟨h.program, h.machine, h.delays, h.state, h.progress, h.maxBatch⟩
  | faulted going fetch read effect => exact hcount going
  | applied going fetch read effect inside => exact hcount going

theorem stepDue (h : s.Replays source m d) (n applied : Nat) :
    ∃ t k, stepDue n applied s = .ok (t, k) ∧ t.Replays source m d := by
  induction n generalizing s applied with
  | zero => exact ⟨s, applied, rfl, h⟩
  | succ n ih =>
      obtain ⟨t, o, hs, ht⟩ := h.step
      simp only [Session.stepDue, hs]
      split
      · split
        · exact ⟨t, applied + 1, rfl, ht⟩
        · exact ih ht (applied + 1)
      · exact ⟨t, applied, rfl, ht⟩

theorem tick (h : s.Replays source m d) (now : Nat) :
    ∃ t k, s.tick now = .ok (t, k) ∧ t.Replays source m d := by
  have hb : (s.scheduler.due now).1.maxBatch = Scheduler.defaultMaxBatch := by
    rw [Scheduler.maxBatch_due]
    exact h.maxBatch
  obtain ⟨t, k, ht, hr⟩ := (h.withScheduler hb).stepDue (s.scheduler.due now).2 0
  simp only [Session.tick, ht]
  split
  · exact ⟨_, k, rfl, hr.pause⟩
  · exact ⟨_, k, rfl, hr⟩

theorem follow {α : Type} (h : s.Replays source m d) (limits : Limits)
    (observe : α → State → Outcome → α) (fuel taken : Nat) (seen : α) :
    ∃ f, follow limits observe fuel taken seen s = .ok f ∧
      f.session.Replays source m d := by
  induction fuel generalizing s taken seen with
  | zero =>
      unfold Session.follow
      split
      · exact ⟨_, rfl, h⟩
      · split <;> exact ⟨_, rfl, h⟩
  | succ fuel ih =>
      unfold Session.follow
      split
      · exact ⟨_, rfl, h⟩
      · split
        · exact ⟨_, rfl, h⟩
        · obtain ⟨t, o, hs, ht⟩ := h.step
          simp only [hs]
          exact ih ht (taken + 1) (observe seen t.state o)

theorem runObserved {α : Type} (h : s.Replays source m d) (limits : Limits)
    (observe : α → State → Outcome → α) (init : α) (fuel : Nat) :
    ∃ f, s.runObserved limits observe init fuel = .ok f ∧ f.session.Replays source m d :=
  h.pause.follow limits observe fuel 0 init

theorem start (h : s.Replays source m d) (cadence : Cadence) (now : Nat) :
    (s.start cadence now).Replays source m d := by
  unfold Session.start
  split
  · exact h.pause
  · exact h.withScheduler h.maxBatch

/-- **A session that was reset is a fresh one.** -/
theorem reset_eq_load (h : s.Replays source m d) : s.reset = load source m d := by
  have hs := Scheduler.pause_eq_idle h.maxBatch
  simp only [reset, load, ofProgram, hs, ← h.program, h.machine, h.delays]

/-- A session that was given another program is a fresh session of that program. -/
theorem replace_eq_load (h : s.Replays source m d) (new : String) :
    s.replace new = load new m d := by
  have hs := Scheduler.pause_eq_idle h.maxBatch
  simp only [replace, reset, load, ofProgram, hs, h.machine, h.delays]

/-- **Every operation succeeds and keeps a session a replay.** -/
theorem perform (h : s.Replays source m d) (o : Operation) :
    ∃ t, s.perform o = .ok t ∧ t.Replays (o.sourceAfter source) m d := by
  cases o with
  | step =>
      obtain ⟨t, o, hs, ht⟩ := h.step
      exact ⟨t, by simp only [Session.perform, hs, Except.map], ht⟩
  | start cadence now => exact ⟨_, rfl, h.start cadence now⟩
  | pause => exact ⟨_, rfl, h.pause⟩
  | tick now =>
      obtain ⟨t, k, hs, ht⟩ := h.tick now
      exact ⟨t, by simp only [Session.perform, hs, Except.map], ht⟩
  | reset =>
      refine ⟨_, rfl, ?_⟩
      rw [h.reset_eq_load]
      exact replays_load source m d
  | replace new =>
      refine ⟨_, rfl, ?_⟩
      rw [h.replace_eq_load]
      exact replays_load new m d
  | runToEnd limits fuel =>
      obtain ⟨f, hf, ht⟩ := h.runObserved limits (fun _ _ _ => ()) () fuel
      exact ⟨f.session, by simp only [Session.perform, runToEnd, hf, Except.map], ht⟩
  | runObserved limits observe init fuel =>
      obtain ⟨f, hf, ht⟩ := h.runObserved limits observe init fuel
      exact ⟨f.session, by simp only [Session.perform, hf, Except.map], ht⟩

/-- No step that was counted found the run over. -/
theorem not_frozen (h : s.Replays source m d) {k : Nat} (hk : k < s.taken) :
    ∃ t u o, (State.start s.program s.machine).after s.program k = .ok t ∧
      t.step s.program = .ok (u, o) ∧ o ≠ .frozen := by
  obtain ⟨t, ht, hv⟩ := State.exists_after_valid s.program s.machine k
  have hd := h.progress k hk t ht
  obtain ⟨u, o, hs⟩ := hv.exists_step
  refine ⟨t, u, o, ht, hs, ?_⟩
  rintro rfl
  cases State.step_eq_ok_iff.mp hs with
  | frozen ended =>
      rw [hd] at ended
      cases ended

/-- Of two sessions of one program, one that is over has taken no more steps than the other. -/
theorem taken_le {s' : Session} (h : s.Replays source m d) (h' : s'.Replays source m d)
    (hd : s.state.done = true) : s'.taken ≤ s.taken := by
  rcases Nat.lt_or_ge s.taken s'.taken with hlt | hle
  · have hs := h.state
    rw [h.program, h.machine, ← h'.program, ← h'.machine] at hs
    have hgoing := h'.progress s.taken hlt s.state hs
    rw [hd] at hgoing
    cases hgoing
  · exact hle

/-- **Two sessions of one program that are over** are so in the same state, after the same number
of steps. -/
theorem eq_of_done {s' : Session} (h : s.Replays source m d) (h' : s'.Replays source m d)
    (hd : s.state.done = true) (hd' : s'.state.done = true) :
    s.state = s'.state ∧ s.taken = s'.taken := by
  have htaken : s.taken = s'.taken := Nat.le_antisymm (h'.taken_le h hd') (h.taken_le h' hd)
  have hs := h.state
  rw [h.program, h.machine, htaken, ← h'.program, ← h'.machine, h'.state] at hs
  exact ⟨(Except.ok.inj hs).symm, htaken⟩

end Replays

theorem exists_performAll (source : String) (m : Machine) (d : Delays) (ops : List Operation) :
    ∃ s, (load source m d).performAll ops = .ok s ∧ s.Replays (lastSource source ops) m d :=
  performAll_invariant (P := fun source s => s.Replays source m d) (fun _ _ o h => h.perform o)
    (replays_load source m d) ops

theorem replays_of_performAll {source : String} {m : Machine} {d : Delays} {ops : List Operation}
    {s : Session} (h : (load source m d).performAll ops = .ok s) :
    s.Replays (lastSource source ops) m d := by
  obtain ⟨t, ht, hr⟩ := exists_performAll source m d ops
  rw [h] at ht
  cases ht
  exact hr

/-- **Every session is a replay of its program.**  Whatever is done to a session that was loaded, no
contract is broken, and the state is the one that the program taken up last reaches in as many steps
as were counted, none of which found the run over.  A reset leads back to a fresh session of that
program, new source text to a fresh session of that text, and two sessions of one program that are
over are so in the same state after the same number of steps. -/
theorem session_is_a_replay (source : String) (m : Machine) (d : Delays) (ops : List Operation) :
    (∃ s, (load source m d).performAll ops = .ok s ∧
      s.program = Program.ofSource (lastSource source ops) ∧ s.machine = m ∧ s.delays = d ∧
      (State.start s.program s.machine).after s.program s.taken = .ok s.state ∧
      ∀ k < s.taken, ∃ t u o, (State.start s.program s.machine).after s.program k = .ok t ∧
        t.step s.program = .ok (u, o) ∧ o ≠ .frozen) ∧
    (load source m d).performAll (ops ++ [.reset]) = .ok (load (lastSource source ops) m d) ∧
    (∀ new, (load source m d).performAll (ops ++ [.replace new]) = .ok (load new m d)) ∧
    ∀ ops' s s', (load source m d).performAll ops = .ok s →
      (load source m d).performAll ops' = .ok s' →
      lastSource source ops = lastSource source ops' →
      s.state.done = true → s'.state.done = true → s.state = s'.state ∧ s.taken = s'.taken := by
  obtain ⟨s, hs, hr⟩ := exists_performAll source m d ops
  refine ⟨⟨s, hs, hr.program, hr.machine, hr.delays, hr.state, fun k hk => hr.not_frozen hk⟩,
    ?_, fun new => ?_, fun ops' t t' ht ht' hsrc hd hd' => ?_⟩
  · rw [performAll_append hs, performAll_cons (t := load (lastSource source ops) m d)]
    · rfl
    · exact congrArg Except.ok hr.reset_eq_load
  · rw [performAll_append hs, performAll_cons (t := load new m d)]
    · rfl
    · exact congrArg Except.ok (hr.replace_eq_load new)
  · have h := replays_of_performAll ht
    have h' := replays_of_performAll ht'
    rw [← hsrc] at h'
    exact h.eq_of_done h' hd hd'

end Session

end TapeMachine
