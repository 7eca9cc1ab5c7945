/-
**Runs driven by the clock.**

While the clock drives a session, its owner asks it again and again to take the steps that are due.
How often it asks is an accident of its own loop, and should not show.  It does not: after a poll at
some time the session has taken as many steps as delays have passed since the start, or as many as
were left of the run if that is less.  Only a poll that comes later than a whole batch after the one
before drops steps, and even then there are never too many.

A session that is driven is in one of two situations: the run is going, and the scheduler has handed
out exactly the steps that were taken; or the run is over, and the clock does not drive it any more.
A poll leads from the first to either of them, and from the second nowhere.

Main definitions:

* `TapeMachine.Session.tickAll` — polls at given times, and the number of steps they take;
* `TapeMachine.Session.Driven` — the two situations.

Main results:

* `TapeMachine.Session.stepDue_trace` — the steps that are due follow a trace of the state;
* `TapeMachine.Session.Driven.tick` — what a poll makes of a session that is driven;
* `TapeMachine.Session.timed_run_ignores_polling` — **a timed run does not depend on the polls**.
-/

import TapeMachine.Proofs.Pace
import TapeMachine.Proofs.Trace

set_option relaxedAutoImplicit false
set_option autoImplicit false

namespace TapeMachine

open State (Trace)

namespace Session

/-- Polls at the given times, one after the other; `applied` steps were taken before this call. -/
def tickAll : Nat → Session → List Nat → Except Breach (Session × Nat)
  | applied, s, [] => .ok (s, applied)
  | applied, s, now :: rest =>
    match s.tick now with
    | .error b => .error b
    | .ok (t, k) => tickAll (applied + k) t rest

/-! ### The steps that are due -/

/-- **The steps that are due follow a trace of the state**: all of them, or fewer when the run is
over before. -/
theorem stepDue_trace {s : Session} {m : Machine} (hv : s.state.Valid s.program m)
    (n applied : Nat) :
    ∃ calls t, Trace s.program s.state calls t ∧
      stepDue n applied s = .ok (s.advance calls.length t, applied + calls.length) ∧
      (calls.length = n ∨ calls.length ≤ n ∧ t.done = true) := by
  induction n generalizing s applied with
  | zero => exact ⟨[], s.state, .nil _, rfl, .inl rfl⟩
  | succ n ih =>
      cases hd : s.state.done with
      | true =>
          have hstep : s.step = .ok (s, .frozen) := step_eq_ok (State.step_of_done hd)
          refine ⟨[], s.state, .nil _, ?_, .inr ⟨Nat.zero_le _, hd⟩⟩
          simp only [stepDue, hstep]
          rfl
      | false =>
          obtain ⟨t, o, hs⟩ := hv.exists_step
          obtain ⟨hprogress, hstep⟩ := step_eq_advance hd hs
          simp only [stepDue, hstep, hprogress, if_true]
          split
          · -- this step ended the run, and the other steps that are due are not taken
            rename_i hended
            exact ⟨[(t, o)], t, .cons hd hs (.nil t), rfl,
              .inr ⟨Nat.succ_le_succ (Nat.zero_le n), hended⟩⟩
          · obtain ⟨calls, u, htrace, hrest, hlen⟩ :=
              ih (s := s.advance 1 t) (hv.step hs) (applied + 1)
            refine ⟨(t, o) :: calls, u, .cons hd hs htrace, ?_, ?_⟩
            · rw [hrest, advance_advance, List.length_cons, Nat.add_assoc,
                Nat.add_comm 1 calls.length]
            · exact hlen.imp (congrArg Nat.succ) (And.imp_left Nat.succ_le_succ)

/-! ### Sessions that are driven -/

/-- The session with another scheduler. -/
def drivenBy (s : Session) (c : Scheduler) : Session := { s with scheduler := c }

/-- A poll follows a trace of the state, and what the scheduler has become drives the session on,
unless the run is over. -/
theorem tick_trace {s : Session} {m : Machine} {now j : Nat} {c : Scheduler}
    (hv : s.state.Valid s.program m) (hdue : s.scheduler.due now = (c, j)) :
    ∃ calls t, Trace s.program s.state calls t ∧
      (t.done = true ∧ calls.length ≤ j ∧
          s.tick now = .ok ((s.advance calls.length t).drivenBy c.pause, calls.length) ∨
        t.done = false ∧ calls.length = j ∧
          s.tick now = .ok ((s.advance calls.length t).drivenBy c, calls.length)) := by
  obtain ⟨calls, t, htrace, hsteps, hlen⟩ := stepDue_trace (s := s.drivenBy c) hv j 0
  have htick : s.tick now = .ok (if t.done then ((s.drivenBy c).advance calls.length t).pause
      else (s.drivenBy c).advance calls.length t, calls.length) := by
    have hsteps : stepDue j 0 { s with scheduler := c } =
        .ok ((s.drivenBy c).advance calls.length t, 0 + calls.length) := hsteps
    simp only [tick, hdue, hsteps, Nat.zero_add]
    rfl
  refine ⟨calls, t, htrace, ?_⟩
  cases ended : t.done with
  | true =>
      rw [ended] at htick
      exact .inl ⟨rfl, by omega, htick⟩
  | false =>
      rw [ended] at htick
      rcases hlen with hlen | ⟨_, hended⟩
      · exact .inr ⟨rfl, hlen, htick⟩
      · rw [ended] at hended
        cases hended

/-- The session `s`, `k` steps after the clock began to drive it at `t0`, when it was polled last at
`now`: `P` says what the steps, the time and the deadline have to do with each other. -/
inductive Driven (P : Nat → Nat → Nat → Prop) (s : Session) (cadence : Cadence)
    (delay t0 now k : Nat) : Session → Prop where
  /-- The run is going, and the clock drives it. -/
  | running {calls : List (State × Outcome)} {t : State} {deadline : Nat}
      (trace : Trace s.program s.state calls t) (length : calls.length = k)
      (going : t.done = false) (keeps : P k now deadline) :
      Driven P s cadence delay t0 now k
        ((s.advance k t).drivenBy (.pacing Scheduler.defaultMaxBatch cadence delay deadline))
  /-- The run is over, and the clock does not drive it any more. -/
  | finished {calls : List (State × Outcome)} {t : State}
      (trace : Trace s.program s.state calls t) (length : calls.length = k)
      (ended : t.done = true) (rate : t0 + k * delay ≤ now) :
      Driven P s cadence delay t0 now k ((s.advance k t).drivenBy .idle)

/-- A session is driven from the start, unless its run is over already. -/
theorem driven_start {P : Nat → Nat → Nat → Prop} {s : Session} {cadence : Cadence}
    {delay t0 : Nat} (hdelay : delay = Scheduler.clampDelay (s.delays.delay cadence))
    (hb : s.scheduler.maxBatch = Scheduler.defaultMaxBatch) (hP : P 0 t0 (t0 + delay)) :
    Driven P s cadence delay t0 t0 0 (s.start cadence t0) := by
  cases hd : s.state.done with
  | true =>
      have hstart : s.start cadence t0 = (s.advance 0 s.state).drivenBy .idle := by
        rw [start, if_pos hd, Scheduler.pause_eq_idle hb]
        rfl
      rw [hstart]
      exact .finished (.nil _) rfl hd (by omega)
  | false =>
      have hstart : s.start cadence t0 = (s.advance 0 s.state).drivenBy
          (.pacing Scheduler.defaultMaxBatch cadence delay (t0 + delay)) := by
        rw [start, if_neg (by simp [hd]), Scheduler.start_eq_pacing, hb, ← hdelay]
        rfl
      rw [hstart]
      exact .running (.nil _) rfl hd hP

namespace Driven

variable {P : Nat → Nat → Nat → Prop} {gap : Nat → Nat → Prop} {s u : Session} {m : Machine}
  {cadence : Cadence} {delay t0 last now k : Nat}

/-- **What a poll makes of a session that is driven**: it takes the steps that are due, or those
that were left of the run. -/
theorem tick
    (hkept : Scheduler.KeptByPolls Scheduler.defaultMaxBatch cadence delay t0 gap P)
    (hle : ∀ a b, gap a b → a ≤ b) (hv : s.state.Valid s.program m)
    (h : Driven P s cadence delay t0 last k u) (hgap : gap last now) :
    ∃ v j, u.tick now = .ok (v, j) ∧ Driven P s cadence delay t0 now (k + j) v := by
  cases h with
  | @running calls t deadline trace length going keeps =>
      obtain ⟨j, next, hdue, hnext⟩ := hkept.due keeps hgap
      obtain ⟨calls', t', htrace', htick⟩ := tick_trace
        (s := (s.advance k t).drivenBy
          (.pacing Scheduler.defaultMaxBatch cadence delay deadline)) (trace.valid hv) hdue
      have htrace := trace.append htrace'
      have hk : (calls ++ calls').length = k + calls'.length := by rw [List.length_append, length]
      rcases htick with ⟨ended, hj, htick⟩ | ⟨going', rfl, htick⟩
      · -- the steps that were taken are no more than those that were due
        have hmul := Nat.mul_le_mul_right delay (Nat.add_le_add_left hj k)
        have hrate : t0 + (k + calls'.length) * delay ≤ now :=
          Nat.le_trans (Nat.add_le_add_left hmul t0) (hkept.within hnext).mul_le
        have hfinished : Driven P s cadence delay t0 now (k + calls'.length) _ :=
          .finished htrace hk ended hrate
        rw [← advance_advance s k calls'.length t t'] at hfinished
        exact ⟨_, calls'.length, htick, hfinished⟩
      · have hrunning : Driven P s cadence delay t0 now (k + calls'.length) _ :=
          .running htrace hk going' hnext
        rw [← advance_advance s k calls'.length t t'] at hrunning
        exact ⟨_, calls'.length, htick, hrunning⟩
  | @finished calls t trace length ended rate =>
      have hdue : Scheduler.idle.due now = (Scheduler.idle, 0) := Scheduler.due_of_idle rfl
      refine ⟨(s.advance k t).drivenBy .idle, 0, ?_,
        .finished trace length ended (Nat.le_trans rate (hle _ _ hgap))⟩
      simp only [Session.tick, drivenBy, hdue, stepDue_zero, advance, ended, if_true]
      rfl

theorem tickAll
    (hkept : Scheduler.KeptByPolls Scheduler.defaultMaxBatch cadence delay t0 gap P)
    (hle : ∀ a b, gap a b → a ≤ b) (hv : s.state.Valid s.program m) {times : List Nat}
    (hc : (last :: times).IsChain gap) (h : Driven P s cadence delay t0 last k u) :
    ∃ v j, Session.tickAll k u times = .ok (v, j) ∧
      Driven P s cadence delay t0 (times.getLastD last) j v := by
  induction times generalizing last k u with
  | nil => exact ⟨u, k, rfl, h⟩
  | cons now rest ih =>
      rw [List.isChain_cons_cons] at hc
      obtain ⟨v, j, htick, hdriven⟩ := h.tick hkept hle hv hc.1
      rw [List.getLastD_cons]
      simp only [Session.tickAll, htick]
      exact ih hc.2 hdriven

/-- **There are never too many steps**: no more than are left of the run, and no more than delays
have passed. -/
theorem le_min (hwithin : ∀ {k now deadline}, P k now deadline → Within delay t0 k now deadline)
    (hd : 0 < delay) (h : Driven P s cadence delay t0 now k u) :
    (k : ℕ∞) ≤ min (s.state.stepsLeft s.program) ((now - t0) / delay : Nat) := by
  cases h with
  | running trace length going keeps =>
      refine le_min (length ▸ trace.length_le) ?_
      exact_mod_cast (hwithin keeps).le_div hd
  | finished trace length ended rate =>
      refine le_min (length ▸ trace.length_le) ?_
      exact_mod_cast (Nat.le_div_iff_mul_le hd).mpr (by omega)

variable (h : Driven (InStep delay t0) s cadence delay t0 now k u)
include h

/-- **Polls that come in time take all steps**: as many as delays have passed, or as many as were
left of the run. -/
theorem eq_min (hd : 0 < delay) :
    (k : ℕ∞) = min (s.state.stepsLeft s.program) ((now - t0) / delay : Nat) := by
  refine le_antisymm (h.le_min InStep.toWithin hd) ?_
  cases h with
  | running trace length going keeps =>
      rw [← keeps.eq_div]
      exact min_le_right _ _
  | finished trace length ended rate =>
      rw [trace.length_eq ended, length]
      exact min_le_left _ _

theorem after_eq : s.state.after s.program k = .ok u.state := by
  cases h with
  | running trace length going keeps => exact length ▸ trace.after
  | finished trace length ended rate => exact length ▸ trace.after

theorem taken_eq : u.taken = s.taken + k := by
  cases h <;> rfl

theorem isRunning_eq : u.isRunning = !u.state.done := by
  cases h with
  | running trace length going keeps => exact (congrArg Bool.not going).symm
  | finished trace length ended rate => exact (congrArg Bool.not ended).symm

theorem deadline_eq (hr : u.isRunning = true) :
    u.scheduler.deadline? = some (t0 + ((now - t0) / delay + 1) * delay) := by
  cases h with
  | running trace length going keeps =>
      rw [← keeps.eq_div, ← keeps.exact]
      rfl
  | finished trace length ended rate => cases hr

/-- The time of the last poll decides everything. -/
theorem unique (hd : 0 < delay) {k' : Nat} {v : Session}
    (h' : Driven (InStep delay t0) s cadence delay t0 now k' v) : v = u ∧ k' = k := by
  have hk : k' = k := by
    have := (h'.eq_min hd).trans (h.eq_min hd).symm
    exact_mod_cast this
  subst hk
  refine ⟨?_, rfl⟩
  cases h with
  | running trace length going keeps =>
      cases h' with
      | running trace' length' going' keeps' =>
          obtain ⟨_, rfl⟩ := trace.unique trace' (length.trans length'.symm)
          rw [keeps.exact, keeps'.exact]
      | finished trace' length' ended' rate' =>
          obtain ⟨_, rfl⟩ := trace.unique trace' (length.trans length'.symm)
          rw [going] at ended'
          cases ended'
  | finished trace length ended rate =>
      cases h' with
      | running trace' length' going' keeps' =>
          obtain ⟨_, rfl⟩ := trace.unique trace' (length.trans length'.symm)
          rw [going'] at ended
          cases ended
      | finished trace' length' ended' rate' =>
          obtain ⟨_, rfl⟩ := trace.unique trace' (length.trans length'.symm)
          rfl

end Driven

/-- **A timed run does not depend on the polls**, for every session that can come about.  At
whatever times it is polled, the polls together take no more steps than are left of the run, and no
more than delays have passed since the start.  When no poll comes later than a batch of delays after
the one before, they take exactly the lesser of the two; and then the time of the last poll decides
what the session is, whatever other polls there were. -/
theorem timed_run_ignores_polling (source : String) (m : Machine) (d : Delays)
    (ops : List Operation) (cadence : Cadence) (t0 : Nat) :
    let delay := Scheduler.clampDelay (d.delay cadence)
    let inTime := fun a b => a ≤ b ∧ b ≤ a + Scheduler.defaultMaxBatch * delay
    ∃ s, (load source m d).performAll ops = .ok s ∧
      (∀ times, (t0 :: times).IsChain (· ≤ ·) →
        ∃ u k, tickAll 0 (s.start cadence t0) times = .ok (u, k) ∧
          (k : ℕ∞) ≤ min (s.state.stepsLeft s.program) ((times.getLastD t0 - t0) / delay : Nat)) ∧
      ∀ times, (t0 :: times).IsChain inTime →
        ∃ u k, tickAll 0 (s.start cadence t0) times = .ok (u, k) ∧
          (k : ℕ∞) = min (s.state.stepsLeft s.program) ((times.getLastD t0 - t0) / delay : Nat) ∧
          s.state.after s.program k = .ok u.state ∧ u.taken = s.taken + k ∧
          u.isRunning = !u.state.done ∧
          (u.isRunning = true → u.scheduler.deadline? =
            some (t0 + ((times.getLastD t0 - t0) / delay + 1) * delay)) ∧
          ∀ times', (t0 :: times').IsChain inTime → times'.getLastD t0 = times.getLastD t0 →
            tickAll 0 (s.start cadence t0) times' = .ok (u, k) := by
  intro delay inTime
  obtain ⟨s, hs, hr⟩ := exists_performAll source m d ops
  have hd : 0 < delay := Scheduler.clampDelay_pos (d.delay cadence)
  have hword : Scheduler.defaultMaxBatch < Scheduler.tickWord := by decide
  have hdelay : delay = Scheduler.clampDelay (s.delays.delay cadence) := by rw [hr.delays]
  refine ⟨s, hs, fun times hc => ?_, fun times hc => ?_⟩
  · have hkept : Scheduler.KeptByPolls Scheduler.defaultMaxBatch cadence delay t0 (· ≤ ·) _ :=
      Scheduler.keptByPolls_within cadence t0 hd fun _ _ hab => ⟨hab, .inl hword⟩
    have hstart := driven_start hdelay hr.maxBatch (Within.start hd t0)
    obtain ⟨u, k, hticks, hdriven⟩ := hstart.tickAll hkept (fun _ _ hab => hab) hr.valid hc
    exact ⟨u, k, hticks, hdriven.le_min (fun h => h) hd⟩
  · have hkept := Scheduler.keptByPolls_inStep cadence t0 hd hword
    have hstart := driven_start hdelay hr.maxBatch (InStep.start hd t0)
    obtain ⟨u, k, hticks, hdriven⟩ := hstart.tickAll hkept (fun _ _ hab => hab.1) hr.valid hc
    refine ⟨u, k, hticks, hdriven.eq_min hd, hdriven.after_eq, hdriven.taken_eq,
      hdriven.isRunning_eq, hdriven.deadline_eq, fun times' hc' hlast => ?_⟩
    obtain ⟨v, j, hticks', hdriven'⟩ := hstart.tickAll hkept (fun _ _ hab => hab.1) hr.valid hc'
    rw [hlast] at hdriven'
    obtain ⟨rfl, rfl⟩ := hdriven.unique hd hdriven'
    exact hticks'

end Session

end TapeMachine
