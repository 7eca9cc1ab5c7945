/-
**How far a run is followed.**

A run without a screen is followed bit by bit, because somebody looks at the clock in between.  What
it has come to after some looks depends on the sum of the steps alone, so that it can be said of a
run that is followed at once: it has taken as many steps as it was followed, as are left of the run,
or as its limit allows, whichever is least.  How it ends is told by the state after these steps and
by their number.

Neither the steps nor the ending depend on what an observer makes of the run.

Main definitions:

* `TapeMachine.Limits.allowance` — the number of steps that limits allow;
* `TapeMachine.Ending.of` — how a run that was followed ends, by its state and its steps;
* `TapeMachine.Command.Job.drive` — a job that is carried on with from time to time;
* `TapeMachine.Command.Job.Reaches` — what a job has come to through some steps.

Main results:

* `TapeMachine.Session.exists_follow` — **how far a run is followed**, and what it comes to;
* `TapeMachine.Session.follow_add` — a run that is followed further;
* `TapeMachine.Command.Job.drive_eq_begin` — **the looks in between change nothing**;
* `TapeMachine.Command.Job.exists_drive` — what a job comes to.
-/

import TapeMachine.Command.Headless
import TapeMachine.Proofs.BudgetedRun

set_option relaxedAutoImplicit false
set_option autoImplicit false

namespace TapeMachine

open State (Trace)

/-! ### Limits and endings -/

namespace Limits

variable {l : Limits} {k : Nat}

/-- The number of steps that limits allow, infinite when there is no step limit. -/
def allowance (l : Limits) : ℕ∞ :=
  match l.maxSteps with
  | none => ⊤
  | some limit => limit

theorem allowance_of_none (h : l.maxSteps = none) : l.allowance = ⊤ := by
  rw [allowance, h]

theorem allowance_of_some {limit : Nat} (h : l.maxSteps = some limit) : l.allowance = limit := by
  rw [allowance, h]

/-- A run that nobody asked to give up goes on as long as its limit allows. -/
theorem abort?_eq_none_iff (hc : l.canceled = false) :
    l.abort? k = none ↔ (k : ℕ∞) < l.allowance := by
  cases hm : l.maxSteps with
  | none =>
      rw [allowance_of_none hm]
      simp [abort?, hc, hm, ENat.natCast_lt_top]
  | some limit =>
      rw [allowance_of_some hm, Nat.cast_lt]
      simp [abort?, hc, hm]

end Limits

/-- How a run ends that was followed through `k` steps to the state `u`. -/
def Ending.of (limits : Limits) (k : Nat) (u : State) : Ending :=
  if u.done then .finished k
  else
    match limits.abort? k with
    | some reason => .aborted reason
    | none => .unfinished k

namespace Session

variable {α : Type} {limits : Limits} {observe : α → State → Outcome → α}

/-! ### A run that is followed -/

theorem follow_at_end {s : Session} {fuel taken : Nat} {seen : α}
    (h : s.state.done = false → limits.abort? taken = none → fuel = 0) :
    follow limits observe fuel taken seen s = .ok ⟨seen, s, .of limits taken s.state⟩ := by
  unfold Ending.of
  cases hd : s.state.done with
  | true => exact follow_done hd
  | false =>
      cases hgo : limits.abort? taken with
      | some reason => exact follow_abort hd hgo
      | none =>
          rw [h hd hgo]
          exact follow_zero hd hgo

/-- **How far a run is followed**: through as many steps as the fuel lasts, as are left of the run,
or as its limits allow, whichever is least.  The steps are the same for every observer. -/
theorem exists_follow {s : Session} {m : Machine} (hv : s.state.Valid s.program m)
    (hc : limits.canceled = false) (fuel : Nat) :
    ∃ calls u, Trace s.program s.state calls u ∧
      (calls.length : ℕ∞) = min (fuel : ℕ∞) (min (s.state.stepsLeft s.program) limits.allowance) ∧
      ∀ {α : Type} (observe : α → State → Outcome → α) (seen : α),
        follow limits observe fuel 0 seen s =
          .ok ⟨calls.foldl (fun a c => observe a c.1 c.2) seen, s.advance calls.length u,
            .of limits calls.length u⟩ := by
  obtain ⟨k, hk⟩ := ENat.ne_top_iff_exists.mp
    (ne_top_of_le_ne_top (ENat.natCast_ne_top fuel)
      (min_le_left (fuel : ℕ∞) (min (s.state.stepsLeft s.program) limits.allowance)))
  obtain ⟨hfuel, hleft, hallow⟩ : (k : ℕ∞) ≤ fuel ∧ (k : ℕ∞) ≤ s.state.stepsLeft s.program ∧
      (k : ℕ∞) ≤ limits.allowance := by
    rw [hk]
    exact ⟨min_le_left _ _, (min_le_right _ _).trans (min_le_left _ _),
      (min_le_right _ _).trans (min_le_right _ _)⟩
  obtain ⟨calls, u, rfl, htrace⟩ := hv.exists_trace hleft
  obtain ⟨rest, rfl⟩ := Nat.exists_eq_add_of_le (Nat.cast_le.mp hfuel)
  refine ⟨calls, u, htrace, hk, ?_⟩
  intro α observe seen
  have hgo : ∀ i < calls.length, limits.abort? (0 + i) = none := by
    intro i hi
    rw [Nat.zero_add, Limits.abort?_eq_none_iff hc]
    exact lt_of_lt_of_le (Nat.cast_lt.mpr hi) hallow
  rw [follow_trace htrace hgo, Nat.zero_add]
  -- a run that could go on has used up its fuel
  refine follow_at_end ?_
  intro hgoing hnext
  have going : u.done = false := hgoing
  have hlt : (calls.length : ℕ∞) < s.state.stepsLeft s.program := by
    refine lt_of_le_of_ne hleft ?_
    intro heq
    have hdone := htrace.done_of_eq heq.symm
    rw [going] at hdone
    cases hdone
  rw [Limits.abort?_eq_none_iff hc] at hnext
  by_contra hrest
  have hmore : (calls.length : ℕ∞) < (calls.length + rest : ℕ) :=
    Nat.cast_lt.mpr (Nat.lt_add_of_pos_right (Nat.pos_of_ne_zero hrest))
  have := lt_min hmore (lt_min hlt hnext)
  rw [← hk] at this
  exact lt_irrefl _ this

/-- **A run that is followed further** goes on from where it has come to. -/
theorem follow_add {s : Session} {a taken : Nat} {seen : α} {f : Followed α}
    (h : follow limits observe a taken seen s = .ok f) (b : Nat) :
    follow limits observe (a + b) taken seen s =
      match f.ending with
      | .unfinished n => follow limits observe b n f.seen f.session
      | _ => .ok f := by
  induction a generalizing s taken seen with
  | zero =>
      rw [Nat.zero_add]
      cases hd : s.state.done with
      | true =>
          rw [follow_done hd] at h ⊢
          cases h
          rfl
      | false =>
          cases hgo : limits.abort? taken with
          | some reason =>
              rw [follow_abort hd hgo] at h ⊢
              cases h
              rfl
          | none =>
              rw [follow_zero hd hgo] at h
              cases h
              rfl
  | succ a ih =>
      cases hd : s.state.done with
      | true =>
          rw [follow_done hd] at h ⊢
          cases h
          rfl
      | false =>
          cases hgo : limits.abort? taken with
          | some reason =>
              rw [follow_abort hd hgo] at h ⊢
              cases h
              rfl
          | none =>
              cases hs : s.step with
              | error b =>
                  rw [follow] at h
                  simp [hd, hgo, hs] at h
              | ok r =>
                  obtain ⟨t, o⟩ := r
                  rw [follow_succ hd hgo hs] at h
                  rw [Nat.add_right_comm, follow_succ hd hgo hs]
                  exact ih h

end Session

namespace Command

/-! ### Jobs -/

namespace Job

variable {job : Job} {m : Machine}

/-- A job that is carried on with from time to time: it is begun and then resumed, each time through
at most the given number of steps. -/
def drive (job : Job) (first : Nat) (looks : List Nat) : Except Breach Progress :=
  job.begin first >>= fun p => looks.foldlM job.resume p

/-- A job comes to a progress, however far it is followed. -/
theorem exists_begin (hv : job.session.state.Valid job.session.program m) (fuel : Nat) :
    ∃ calls u, Trace job.session.program job.session.state calls u ∧
      (calls.length : ℕ∞) = min (fuel : ℕ∞)
        (min (job.session.state.stepsLeft job.session.program) job.limits.allowance) ∧
      job.begin fuel = .ok
        ⟨calls.foldl (fun t c => t.observe job (.ofAdmitted job.admits) c.1 c.2)
            (Transcript.start job.session),
          job.session.pause.advance calls.length u, .of job.limits calls.length u⟩ := by
  have hpause : job.session.pause.state.Valid job.session.pause.program m := hv
  obtain ⟨calls, u, htrace, hlen, hfollow⟩ :=
    Session.exists_follow hpause (rfl : job.limits.canceled = false) fuel
  exact ⟨calls, u, htrace, hlen, hfollow _ _⟩

theorem resume_of_begin {a : Nat} {p : Progress} (h : job.begin a = .ok p) (b : Nat) :
    job.resume p b = job.begin (a + b) := by
  rw [begin, Session.runObserved, Session.follow_add h b]
  rfl

/-- **The looks in between change nothing**: a job that is carried on with from time to time comes
to what it comes to at once. -/
theorem drive_eq_begin (hv : job.session.state.Valid job.session.program m) (first : Nat)
    (looks : List Nat) : job.drive first looks = job.begin (first + looks.sum) := by
  induction looks generalizing first with
  | nil =>
      rw [drive, List.sum_nil, Nat.add_zero]
      cases job.begin first <;> rfl
  | cons b looks ih =>
      obtain ⟨_, _, _, _, hbegin⟩ := exists_begin hv first
      rw [List.sum_cons, ← Nat.add_assoc, ← ih (first + b), drive, drive, hbegin,
        ← resume_of_begin hbegin b]
      rfl

/-- A job that runs a program from its start has come this far through the steps `calls`. -/
structure Reaches (job : Job) (p : Program) (m : Machine) (calls : List (State × Outcome))
    (q : Progress) : Prop where
  /-- The steps lead from the start of the run to the state that it has come to. -/
  trace : Trace p (.start p m) calls q.session.state
  /-- The program is still the same. -/
  program : q.session.program = p
  /-- Every step was observed, in order. -/
  seen : q.seen = calls.foldl (fun t c => t.observe job (.ofAdmitted job.admits) c.1 c.2)
    (Transcript.start job.session)
  /-- How the run has ended, if it has. -/
  ending : q.ending = .of job.limits calls.length q.session.state

/-- **What a job comes to** that runs a program from its start and is carried on with from time to
time. -/
theorem exists_drive {p : Program} {d : Delays} (fresh : job.session = .ofProgram p m d)
    (first : Nat) (looks : List Nat) :
    ∃ q calls, job.drive first looks = .ok q ∧ job.Reaches p m calls q ∧
      (calls.length : ℕ∞) = min ((first + looks.sum : ℕ) : ℕ∞)
        (min ((State.start p m).stepsLeft p) job.limits.allowance) := by
  have hp : job.session.program = p := by
    rw [fresh]
    rfl
  have hs : job.session.state = .start p m := by
    rw [fresh]
    rfl
  have hv : job.session.state.Valid job.session.program m := by
    rw [hp, hs]
    exact State.valid_start p m
  obtain ⟨calls, u, htrace, hlen, hbegin⟩ := exists_begin hv (first + looks.sum)
  rw [← drive_eq_begin hv] at hbegin
  rw [hp, hs] at htrace hlen
  exact ⟨_, calls, hbegin, ⟨htrace, hp, rfl, rfl⟩, hlen⟩

end Job

end Command

end TapeMachine
