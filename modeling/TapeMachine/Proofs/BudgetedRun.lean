/-
**Runs under a budget.**

A run to the end is given up when someone asks for it or when it has used up its step limit.  What
it returns, what it leaves behind and what its observer sees depend on the order in which these
tests are made, and on the number of steps that are left of the run.  Here this is worked out for
every session that can come about: a run that is over costs nothing and is never given up, a limit
that suffices exactly is not exceeded, and a limit can be split into two runs, one after the other.

The run is followed through some number of steps.  A run that comes to an end is followed far enough
when that number is at least the number of its steps, and this is the form all statements have.

Main definitions:

* `TapeMachine.Session.Yields` — what a run under limits does, with all there is to see of it.

Main results:

* `TapeMachine.Session.follow_trace` — a run that is not given up follows a trace of its state;
* `TapeMachine.Session.yields_finished`, `TapeMachine.Session.yields_stepLimit`,
  `TapeMachine.Session.yields_canceled` — the three ways in which a run comes to an end;
* `TapeMachine.Session.budgeted_runs_are_exact` — **what a run under limits does**, in every case,
  and that limits can be split.
-/

import TapeMachine.Proofs.Trace

set_option relaxedAutoImplicit false
set_option autoImplicit false

namespace TapeMachine

open State (Trace)

/-! ### Limits -/

namespace Limits

variable {l : Limits} {limit k : Nat}

theorem abort?_of_canceled (h : l.canceled = true) (k : Nat) : l.abort? k = some .canceled := by
  simp [abort?, h]

theorem abort?_of_le (hc : l.canceled = false) (hl : l.maxSteps = some limit) (hk : limit ≤ k) :
    l.abort? k = some (.stepLimit limit) := by
  simp [abort?, hc, hl, hk]

/-- A run goes on as long as the limit, if there is one, is not reached. -/
theorem abort?_eq_none (hc : l.canceled = false)
    (hl : ∀ limit, l.maxSteps = some limit → k < limit) : l.abort? k = none := by
  cases hm : l.maxSteps with
  | none => simp [abort?, hc, hm]
  | some limit => simp [abort?, hc, hm, hl limit hm]

end Limits

namespace Session

/-! ### The loop -/

section Loop

variable {α : Type} {limits : Limits} {observe : α → State → Outcome → α} {s : Session}
  {taken fuel : Nat} {seen : α}

theorem follow_succ (going : s.state.done = false) (hgo : limits.abort? taken = none)
    {t : Session} {o : Outcome} (h : s.step = .ok (t, o)) :
    follow limits observe (fuel + 1) taken seen s =
      follow limits observe fuel (taken + 1) (observe seen t.state o) t := by
  rw [follow]
  simp [going, hgo, h]

theorem follow_abort (going : s.state.done = false) {reason : Abort}
    (h : limits.abort? taken = some reason) :
    follow limits observe fuel taken seen s = .ok ⟨seen, s, .aborted reason⟩ := by
  unfold follow
  simp [going, h]

theorem follow_zero (going : s.state.done = false) (h : limits.abort? taken = none) :
    follow limits observe 0 taken seen s = .ok ⟨seen, s, .unfinished taken⟩ := by
  unfold follow
  simp [going, h]

/-- **A run that is not given up follows a trace of its state**, and shows it to the observer entry
by entry. -/
theorem follow_trace {calls : List (State × Outcome)} {u : State}
    (h : Trace s.program s.state calls u)
    (hgo : ∀ i < calls.length, limits.abort? (taken + i) = none) :
    follow limits observe (calls.length + fuel) taken seen s =
      follow limits observe fuel (taken + calls.length)
        (calls.foldl (fun a c => observe a c.1 c.2) seen) (s.advance calls.length u) := by
  -- one turn of the loop for each entry; the fuel beyond the trace is left for what follows
  induction calls generalizing s taken seen with
  | nil =>
      cases h with
      | nil _ => simp [advance_zero]
  | cons c rest ih =>
      cases h with
      | @cons _ t _ o _ going step tail =>
          have hstep := (step_eq_advance going step).2
          have hrest : ∀ i < rest.length, limits.abort? (taken + 1 + i) = none := by
            intro i hi
            rw [Nat.add_assoc, Nat.add_comm 1]
            exact hgo (i + 1) (Nat.succ_lt_succ hi)
          have hnow : limits.abort? taken = none := hgo 0 (Nat.succ_pos _)
          rw [List.length_cons, Nat.add_right_comm, follow_succ going hnow hstep,
            ih (s := s.advance 1 t) tail hrest, advance_advance, Nat.add_assoc,
            Nat.add_comm 1 rest.length]
          rfl

end Loop

/-! ### What a run under limits does -/

/-- Under the limits, a run of `s` takes one step for each of the calls to its observer, leaves the
session `t` behind and ends as told, however far beyond its end it is followed. -/
structure Yields (s : Session) (limits : Limits) (calls : List (State × Outcome)) (t : Session)
    (ending : Ending) : Prop where
  /-- The clock does not drive the run any more, the steps are counted, and nothing else but the
  state has changed. -/
  session : t = { s.pause with state := t.state, taken := s.taken + calls.length }
  /-- The state is the one after as many steps as there were calls. -/
  state : s.state.after s.program calls.length = .ok t.state
  /-- Each call shows the state after the step and what the step did, and it did something. -/
  call : ∀ i (h : i < calls.length), s.state.after s.program (i + 1) = .ok calls[i].1 ∧
    ∃ r, s.state.after s.program i = .ok r ∧ r.step s.program = .ok calls[i] ∧
      calls[i].2 ≠ .frozen
  /-- What an observer sees are these calls, in this order. -/
  observed : ∀ {α : Type} (observe : α → State → Outcome → α) (init : α) (fuel : Nat),
    calls.length ≤ fuel → s.runObserved limits observe init fuel =
      .ok ⟨calls.foldl (fun a c => observe a c.1 c.2) init, t, ending⟩
  /-- Without an observer the run is the same. -/
  unobserved : ∀ fuel, calls.length ≤ fuel → s.runToEnd limits fuel = .ok (t, ending)

section Yields

variable {s : Session} (limits : Limits) {calls : List (State × Outcome)} {u : State}
  {ending : Ending}

/-- A run follows a trace that the limits allow, and what it yields is told at the end of it. -/
theorem yields_of_trace (h : Trace s.program s.state calls u)
    (hgo : ∀ i < calls.length, limits.abort? i = none)
    (hend : ∀ {α : Type} (observe : α → State → Outcome → α) (fuel : Nat) (seen : α),
      follow limits observe fuel calls.length seen (s.pause.advance calls.length u) =
        .ok ⟨seen, s.pause.advance calls.length u, ending⟩) :
    s.Yields limits calls (s.pause.advance calls.length u) ending := by
  have hrun : ∀ {α : Type} (observe : α → State → Outcome → α) (init : α) (fuel : Nat),
      calls.length ≤ fuel → s.runObserved limits observe init fuel =
        .ok ⟨calls.foldl (fun a c => observe a c.1 c.2) init, s.pause.advance calls.length u,
          ending⟩ := by
    intro α observe init fuel hfuel
    obtain ⟨rest, rfl⟩ := Nat.exists_eq_add_of_le hfuel
    have htrace : Trace s.pause.program s.pause.state calls u := h
    rw [runObserved, follow_trace htrace (by simpa using hgo), Nat.zero_add, hend]
  refine ⟨rfl, h.after, fun i hi => h.step_getElem hi, hrun, fun fuel hfuel => ?_⟩
  rw [runToEnd, hrun _ _ fuel hfuel]
  rfl

/-- A trace to the end of the run is a run that is finished, if its limits suffice. -/
theorem yields_finished (h : Trace s.program s.state calls u) (ended : u.done = true)
    (hgo : ∀ i < calls.length, limits.abort? i = none) :
    s.Yields limits calls (s.pause.advance calls.length u) (.finished calls.length) :=
  yields_of_trace limits h hgo fun _ _ _ => follow_done ended

/-- A trace as long as the limit is a run that exceeds it, if it does not end there. -/
theorem yields_stepLimit (h : Trace s.program s.state calls u) (going : u.done = false)
    (hc : limits.canceled = false) (hl : limits.maxSteps = some calls.length) :
    s.Yields limits calls (s.pause.advance calls.length u)
      (.aborted (.stepLimit calls.length)) := by
  refine yields_of_trace limits h (fun i hi => Limits.abort?_eq_none hc fun limit hlimit => ?_)
    fun _ _ _ => follow_abort going (Limits.abort?_of_le hc hl (Nat.le_refl _))
  rw [hl] at hlimit
  cases hlimit
  exact hi

/-- A run that is given up from the start takes no step. -/
theorem yields_canceled (going : s.state.done = false) (hc : limits.canceled = true) :
    s.Yields limits [] s.pause (.aborted .canceled) :=
  yields_of_trace limits (.nil _) (fun i hi => by cases hi)
    fun _ _ _ => follow_abort (s := s.pause) going (Limits.abort?_of_canceled hc 0)

/-- A run that is over yields nothing, whatever its limits are. -/
theorem yields_done (ended : s.state.done = true) : s.Yields limits [] s.pause (.finished 0) :=
  yields_finished limits (.nil _) ended fun i hi => by cases hi

end Yields

/-! ### Budgets and what is left of a run -/

section Budget

variable {s : Session} {m : Machine}

theorem exists_yields_stepLimit (hv : s.state.Valid s.program m) {limits : Limits} {limit : Nat}
    (hc : limits.canceled = false) (hl : limits.maxSteps = some limit)
    (hlt : (limit : ℕ∞) < s.state.stepsLeft s.program) :
    ∃ calls t, calls.length = limit ∧ s.Yields limits calls t (.aborted (.stepLimit limit)) := by
  obtain ⟨calls, u, rfl, htrace⟩ := hv.exists_trace hlt.le
  exact ⟨calls, _, rfl, yields_stepLimit limits htrace (htrace.going_of_lt hlt) hc hl⟩

theorem exists_yields_finished (hv : s.state.Valid s.program m) {limits : Limits} {n : Nat}
    (hc : limits.canceled = false) (hn : s.state.stepsLeft s.program = n)
    (hl : ∀ limit, limits.maxSteps = some limit → n ≤ limit) :
    ∃ calls t, calls.length = n ∧ t.state.done = true ∧ s.Yields limits calls t (.finished n) := by
  obtain ⟨calls, u, rfl, htrace⟩ := hv.exists_trace hn.ge
  have ended := htrace.done_of_eq hn
  refine ⟨calls, _, rfl, ended, yields_finished limits htrace ended fun i hi => ?_⟩
  exact Limits.abort?_eq_none hc fun limit hlimit => Nat.lt_of_lt_of_le hi (hl limit hlimit)

/-- A run that never ends and has no limit is not over, however far it is followed. -/
theorem runToEnd_unfinished (hv : s.state.Valid s.program m) {limits : Limits}
    (hc : limits.canceled = false) (hl : limits.maxSteps = none)
    (htop : s.state.stepsLeft s.program = ⊤) (fuel : Nat) :
    ∃ t, s.runToEnd limits fuel = .ok (t, .unfinished fuel) := by
  obtain ⟨calls, u, rfl, htrace⟩ := hv.exists_trace (k := fuel) (htop ▸ le_top)
  have going := htrace.going_of_lt (htop ▸ ENat.natCast_lt_top _)
  have hgo : ∀ k, limits.abort? k = none := fun k =>
    Limits.abort?_eq_none hc fun limit hlimit => by
      rw [hl] at hlimit
      cases hlimit
  have htrace' : Trace s.pause.program s.pause.state calls u := htrace
  have hfollow : follow limits (fun (_ : Unit) _ _ => ()) (calls.length + 0) 0 () s.pause = _ :=
    follow_trace htrace' fun i _ => hgo (0 + i)
  rw [follow_zero going (hgo _), Nat.zero_add, Nat.add_zero] at hfollow
  refine ⟨s.pause.advance calls.length u, ?_⟩
  rw [runToEnd, runObserved, hfollow]
  rfl

/-- **Limits can be split**: two runs, the second of which takes up what the first left when it
exceeded its limit, are one run under the sum of their limits. -/
theorem exists_yields_split (hv : s.state.Valid s.program m) {first second : Nat}
    (hlt : (first : ℕ∞) < s.state.stepsLeft s.program) :
    ∃ calls t calls' u ending ending',
      s.Yields ⟨some first, false⟩ calls t (.aborted (.stepLimit first)) ∧
      t.Yields ⟨some second, false⟩ calls' u ending ∧
      s.Yields ⟨some (first + second), false⟩ (calls ++ calls') u ending' ∧
      ((∃ reason, ending = .aborted reason) ↔ ∃ reason, ending' = .aborted reason) := by
  obtain ⟨calls, t, rfl, htrace⟩ := hv.exists_trace hlt.le
  have hfirst := yields_stepLimit ⟨some calls.length, false⟩ htrace (htrace.going_of_lt hlt) rfl rfl
  -- the second run takes up the session that the first one left, paused and counted
  have hjoin : ∀ (calls' : List (State × Outcome)) (u : State),
      (s.pause.advance calls.length t).pause.advance calls'.length u =
        s.pause.advance (calls ++ calls').length u := by
    intro calls' u
    rw [List.length_append, ← advance_advance]
    rfl
  rcases lt_or_ge (second : ℕ∞) (t.stepsLeft s.program) with hsecond | hsecond
  · -- both limits are exceeded
    obtain ⟨calls', u, rfl, htrace'⟩ := (htrace.valid hv).exists_trace hsecond.le
    have going := htrace'.going_of_lt hsecond
    have hwhole := yields_stepLimit ⟨some (calls.length + calls'.length), false⟩
      (htrace.append htrace') going rfl (by rw [List.length_append])
    have hrest := yields_stepLimit (s := s.pause.advance calls.length t)
      ⟨some calls'.length, false⟩ htrace' going rfl rfl
    rw [← hjoin calls' u] at hwhole
    exact ⟨calls, _, calls', _, _, _, hfirst, hrest, hwhole, iff_of_true ⟨_, rfl⟩ ⟨_, rfl⟩⟩
  · -- the second limit suffices, and so does the sum
    obtain ⟨n, hn⟩ :=
      ENat.ne_top_iff_exists.mp (ne_top_of_le_ne_top (ENat.natCast_ne_top _) hsecond)
    obtain ⟨calls', u, rfl, htrace'⟩ := (htrace.valid hv).exists_trace hn.le
    have hle : calls'.length ≤ second := by
      rw [← hn] at hsecond
      exact_mod_cast hsecond
    have ended := htrace'.done_of_eq hn.symm
    have hwhole := yields_finished ⟨some (calls.length + second), false⟩
      (htrace.append htrace') ended fun i hi => Limits.abort?_eq_none rfl fun limit hlimit => by
        cases hlimit
        rw [List.length_append] at hi
        omega
    have hrest := yields_finished (s := s.pause.advance calls.length t)
      ⟨some second, false⟩ htrace' ended
      fun i hi => Limits.abort?_eq_none rfl fun limit hlimit => by
        cases hlimit
        omega
    rw [← hjoin calls' u] at hwhole
    refine ⟨calls, _, calls', _, _, _, hfirst, hrest, hwhole, iff_of_false ?_ ?_⟩
    · rintro ⟨_, hr⟩
      cases hr
    · rintro ⟨_, hr⟩
      cases hr

end Budget

/-- **What a run under limits does**, for every session that can come about.  A run that is over is
finished with no step, whatever its limits are; one that is not is given up without a step when
someone asked for it; it is given up after exactly as many steps as its limit allows when more are
left; and else it is finished after as many steps as are left, unless there is no end to them.  In
every case the observer is called once for each step, and sees the state after it and what it did.
A run that exceeded its limit and a second run after it are one run under the sum of both limits. -/
theorem budgeted_runs_are_exact (source : String) (m : Machine) (d : Delays)
    (ops : List Operation) :
    ∃ s, (load source m d).performAll ops = .ok s ∧
      (∀ limits, s.state.done = true → ∃ t, s.Yields limits [] t (.finished 0)) ∧
      (∀ limits, s.state.done = false → limits.canceled = true →
        ∃ t, s.Yields limits [] t (.aborted .canceled)) ∧
      (∀ limits (limit : Nat), limits.canceled = false → limits.maxSteps = some limit →
        (limit : ℕ∞) < s.state.stepsLeft s.program →
        ∃ calls t, calls.length = limit ∧
          s.Yields limits calls t (.aborted (.stepLimit limit))) ∧
      (∀ limits (n : Nat), limits.canceled = false → s.state.stepsLeft s.program = n →
        (∀ limit, limits.maxSteps = some limit → n ≤ limit) →
        ∃ calls t, calls.length = n ∧ t.state.done = true ∧
          s.Yields limits calls t (.finished n)) ∧
      (∀ limits, limits.canceled = false → limits.maxSteps = none →
        s.state.stepsLeft s.program = ⊤ →
        ∀ fuel, ∃ t, s.runToEnd limits fuel = .ok (t, .unfinished fuel)) ∧
      ∀ first second : Nat, (first : ℕ∞) < s.state.stepsLeft s.program →
        ∃ calls t calls' u ending ending',
          s.Yields ⟨some first, false⟩ calls t (.aborted (.stepLimit first)) ∧
          t.Yields ⟨some second, false⟩ calls' u ending ∧
          s.Yields ⟨some (first + second), false⟩ (calls ++ calls') u ending' ∧
          ((∃ reason, ending = .aborted reason) ↔ ∃ reason, ending' = .aborted reason) := by
  obtain ⟨s, hs, hr⟩ := exists_performAll source m d ops
  have hv := hr.valid
  exact ⟨s, hs, fun limits ended => ⟨_, yields_done limits ended⟩,
    fun limits going hc => ⟨_, yields_canceled limits going hc⟩,
    fun _ _ hc hl hlt => exists_yields_stepLimit hv hc hl hlt,
    fun _ _ hc hn hl => exists_yields_finished hv hc hn hl,
    fun _ hc hl htop fuel => runToEnd_unfinished hv hc hl htop fuel,
    fun _ _ hlt => exists_yields_split hv hlt⟩

end Session

end TapeMachine
