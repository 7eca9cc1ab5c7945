/-
**Traces, and how much of a run is left.**

Sessions step their state in loops: so often as ticks are due, so often as a budget allows, or until
the run is over.  What such a loop does to the state is always the same, and is said here once: it
follows a trace, a row of steps none of which finds the run over.  How long a trace can get is the
number of steps that are left until the run is over, which is infinite when it never is.

Main definitions:

* `TapeMachine.State.Trace` — a row of steps, with the states they lead to and what they do;
* `TapeMachine.State.stepsLeft` — the number of steps until the run is over;
* `TapeMachine.Session.advance` — the session after a trace of its state.

Main results:

* `TapeMachine.State.le_stepsLeft_iff` — what is left, by the steps that do not end the run;
* `TapeMachine.State.Trace.stepsLeft` — **a trace uses up what is left**, step by step;
* `TapeMachine.State.Valid.exists_trace` — there is a trace of every length that is left.
-/

import Mathlib.Data.ENat.Lattice
import TapeMachine.Proofs.Replay

set_option relaxedAutoImplicit false
set_option autoImplicit false

namespace TapeMachine

namespace State

/-! ### Traces -/

/-- From `s` the steps listed lead to the last state: each entry holds the state after the step and
what the step did, and no step finds the run over. -/
inductive Trace (p : Program) : State → List (State × Outcome) → State → Prop where
  | nil (s : State) : Trace p s [] s
  | cons {s t u : State} {o : Outcome} {rest : List (State × Outcome)} (going : s.done = false)
      (step : s.step p = .ok (t, o)) (tail : Trace p t rest u) : Trace p s ((t, o) :: rest) u

/-- A step that finds the run going is not frozen. -/
theorem ne_frozen_of_step {p : Program} {s t : State} {o : Outcome} (going : s.done = false)
    (h : s.step p = .ok (t, o)) : o ≠ .frozen := by
  rintro rfl
  cases step_eq_ok_iff.mp h with
  | frozen ended =>
      rw [going] at ended
      cases ended

namespace Trace

variable {p : Program} {s t u : State} {calls calls' : List (State × Outcome)}

theorem after (h : Trace p s calls t) : s.after p calls.length = .ok t := by
  induction h with
  | nil s => rfl
  | cons going step tail ih =>
      rw [List.length_cons, after_succ_of_step step]
      exact ih

theorem append (h : Trace p s calls t) (h' : Trace p t calls' u) :
    Trace p s (calls ++ calls') u := by
  induction h with
  | nil s => exact h'
  | cons going step tail ih => exact .cons going step (ih h')

/-- A trace is determined by its length. -/
theorem unique (h : Trace p s calls t) (h' : Trace p s calls' u)
    (hlen : calls.length = calls'.length) : calls = calls' ∧ t = u := by
  induction h generalizing calls' with
  | nil s =>
      cases h' with
      | nil _ => exact ⟨rfl, rfl⟩
      | cons _ _ _ => cases hlen
  | cons going step tail ih =>
      cases h' with
      | nil _ => cases hlen
      | cons going' step' tail' =>
          rw [step] at step'
          cases step'
          obtain ⟨rfl, rfl⟩ := ih tail' (Nat.succ.inj hlen)
          exact ⟨rfl, rfl⟩

/-- The entries of a trace are the steps of the run, in order. -/
theorem step_getElem (h : Trace p s calls u) {i : Nat} (hi : i < calls.length) :
    s.after p (i + 1) = .ok calls[i].1 ∧
      ∃ r, s.after p i = .ok r ∧ r.step p = .ok calls[i] ∧ calls[i].2 ≠ .frozen := by
  induction h generalizing i with
  | nil s => cases hi
  | @cons s t u o rest going step tail ih =>
      cases i with
      | zero =>
          exact ⟨after_succ_of_step step 0, s, rfl, step, ne_frozen_of_step going step⟩
      | succ i =>
          have hi : i < rest.length := Nat.lt_of_succ_lt_succ hi
          rw [after_succ_of_step step, after_succ_of_step step]
          exact ih hi

theorem valid {m : Machine} (h : Trace p s calls t) (hv : s.Valid p m) : t.Valid p m := by
  obtain ⟨u, hu, huv⟩ := hv.exists_after calls.length
  rw [h.after] at hu
  cases hu
  exact huv

end Trace

/-! ### What is left of a run -/

/-- The run from this state is over after `n` steps. -/
def OverAfter (p : Program) (s : State) (n : Nat) : Prop :=
  ∃ t, s.after p n = .ok t ∧ t.done = true

/-- The number of steps until the run is over; infinite when it never is. -/
noncomputable def stepsLeft (p : Program) (s : State) : ℕ∞ :=
  ⨅ (n : Nat) (_ : s.OverAfter p n), (n : ℕ∞)

variable {p : Program} {m : Machine} {s t : State} {o : Outcome} {k : Nat}

theorem le_stepsLeft_iff : (k : ℕ∞) ≤ s.stepsLeft p ↔ ∀ n, s.OverAfter p n → k ≤ n := by
  simp only [stepsLeft, le_iInf_iff, Nat.cast_le]

theorem overAfter_zero_iff : s.OverAfter p 0 ↔ s.done = true := by
  simp [OverAfter, after]

theorem overAfter_succ_iff (h : s.step p = .ok (t, o)) (n : Nat) :
    s.OverAfter p (n + 1) ↔ t.OverAfter p n := by
  rw [OverAfter, after_succ_of_step h, OverAfter]

theorem stepsLeft_of_done (h : s.done = true) : s.stepsLeft p = 0 := by
  have hle : s.stepsLeft p ≤ (0 : Nat) := iInf₂_le 0 (overAfter_zero_iff.mpr h)
  exact le_antisymm hle zero_le

theorem one_le_stepsLeft (h : s.done = false) : 1 ≤ s.stepsLeft p := by
  refine le_stepsLeft_iff (k := 1) |>.mpr fun n hn => ?_
  cases n with
  | zero =>
      rw [overAfter_zero_iff, h] at hn
      cases hn
  | succ n => exact Nat.le_add_left 1 n

theorem stepsLeft_eq_zero_iff : s.stepsLeft p = 0 ↔ s.done = true := by
  refine ⟨fun h => ?_, stepsLeft_of_done⟩
  cases hd : s.done with
  | true => rfl
  | false =>
      have := one_le_stepsLeft (p := p) hd
      rw [h] at this
      exact absurd this (by decide)

/-- A step of a run that is going leaves one step less. -/
theorem stepsLeft_of_step (going : s.done = false) (h : s.step p = .ok (t, o)) :
    s.stepsLeft p = t.stepsLeft p + 1 := by
  refine ENat.eq_of_forall_natCast_le_iff fun k => ?_
  cases k with
  | zero => simp
  | succ k =>
      rw [Nat.cast_succ, ENat.add_le_add_iff_right ENat.one_ne_top, ← Nat.cast_succ,
        le_stepsLeft_iff, le_stepsLeft_iff]
      constructor
      · intro hs n hn
        exact Nat.le_of_succ_le_succ (hs (n + 1) ((overAfter_succ_iff h n).mpr hn))
      · intro ht n hn
        cases n with
        | zero =>
            rw [overAfter_zero_iff, going] at hn
            cases hn
        | succ n => exact Nat.succ_le_succ (ht n ((overAfter_succ_iff h n).mp hn))

/-- **A trace uses up what is left of a run**, step by step. -/
theorem Trace.stepsLeft {calls : List (State × Outcome)} (h : Trace p s calls t) :
    s.stepsLeft p = t.stepsLeft p + calls.length := by
  induction h with
  | nil s => simp
  | cons going step tail ih =>
      rw [stepsLeft_of_step going step, ih, List.length_cons, Nat.cast_succ, add_assoc]

theorem Trace.length_le {calls : List (State × Outcome)} (h : Trace p s calls t) :
    (calls.length : ℕ∞) ≤ s.stepsLeft p := by
  rw [h.stepsLeft]
  exact le_add_self

/-- A trace that ends the run is as long as what was left. -/
theorem Trace.length_eq {calls : List (State × Outcome)} (h : Trace p s calls t)
    (hd : t.done = true) : s.stepsLeft p = calls.length := by
  rw [h.stepsLeft, stepsLeft_of_done hd, zero_add]

theorem Trace.going_of_lt {calls : List (State × Outcome)} (h : Trace p s calls t)
    (hlt : (calls.length : ℕ∞) < s.stepsLeft p) : t.done = false := by
  cases hd : t.done with
  | false => rfl
  | true =>
      rw [h.length_eq hd] at hlt
      exact absurd hlt (lt_irrefl _)

theorem Trace.done_of_eq {calls : List (State × Outcome)} (h : Trace p s calls t)
    (heq : s.stepsLeft p = calls.length) : t.done = true := by
  rw [h.stepsLeft] at heq
  exact stepsLeft_eq_zero_iff.mp
    (WithTop.add_right_cancel (ENat.natCast_ne_top _) (heq.trans (zero_add _).symm))

/-- There is a trace of every length that is left. -/
theorem Valid.exists_trace (hv : s.Valid p m) (h : (k : ℕ∞) ≤ s.stepsLeft p) :
    ∃ calls t, calls.length = k ∧ Trace p s calls t := by
  induction k generalizing s with
  | zero => exact ⟨[], s, rfl, .nil s⟩
  | succ k ih =>
      have going : s.done = false := by
        cases hd : s.done with
        | false => rfl
        | true =>
            rw [stepsLeft_of_done hd, Nat.cast_succ] at h
            simp at h
      obtain ⟨t, o, hs⟩ := hv.exists_step
      rw [stepsLeft_of_step going hs, Nat.cast_succ,
        ENat.add_le_add_iff_right ENat.one_ne_top] at h
      obtain ⟨calls, u, hlen, htrace⟩ := ih (hv.step hs) h
      exact ⟨(t, o) :: calls, u, congrArg Nat.succ hlen, .cons going hs htrace⟩

end State

/-! ### Sessions that took steps -/

namespace Session

/-- The session after `k` steps that led to the given state. -/
def advance (s : Session) (k : Nat) (t : State) : Session :=
  { s with state := t, taken := s.taken + k }

/-- A step by hand of a run that is going. -/
theorem step_eq_advance {s : Session} {t : State} {o : Outcome} (going : s.state.done = false)
    (h : s.state.step s.program = .ok (t, o)) :
    o.madeProgress = true ∧ s.step = .ok (s.advance 1 t, o) := by
  have hp : o.madeProgress = true := by
    cases o with
    | frozen => exact absurd rfl (State.ne_frozen_of_step going h)
    | applied _ _ _ _ | faulted _ => rfl
  refine ⟨hp, ?_⟩
  rw [step_eq_ok h, if_pos hp]
  rfl

theorem advance_zero (s : Session) : s.advance 0 s.state = s := rfl

theorem advance_advance (s : Session) (j k : Nat) (t u : State) :
    (s.advance j t).advance k u = s.advance (j + k) u := by
  simp only [advance, Nat.add_assoc]

end Session

end TapeMachine
