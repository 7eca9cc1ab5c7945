/-
**Progress and change.**

A step reports progress unless it finds the run over already.  That is almost, but not quite, the
same as having changed the state.  Every instruction moves control, or ends the run, so the state
after a step differs from the state before it; with one exception.  The closing bracket of an empty
loop jumps behind its partner, and there it stands itself.  Such a step reports progress, since it
executed an instruction, and leaves everything as it was; and so does every step after it.

The proof compares the position before a step with that after it.  Nothing else has to be looked at,
because an instruction that lets control stand still is a jump, and a jump changes no data.

Main definitions:

* `TapeMachine.State.Spins` — the run is at the end of an empty loop that it does not leave.

Main results:

* `TapeMachine.State.next_eq_position_iff` — **when control stands still**;
* `TapeMachine.State.Valid.agrees_iff_of_step` — when a step changes nothing;
* `TapeMachine.State.Spins.after` — a run that spins does so for ever;
* `TapeMachine.State.progress_is_change_unless_spinning` — a step that reports progress has changed
  the state, and conversely, except in an empty loop;
* `TapeMachine.State.progress_without_change` — an empty loop that is reached.
-/

import TapeMachine.Proofs.Fault
import TapeMachine.Proofs.OutcomeLog

set_option relaxedAutoImplicit false
set_option autoImplicit false

namespace TapeMachine

/-- The bracket right before a position is the partner to the left exactly when it is an opening
one. -/
theorem Program.partner_backward_succ_iff {p : Program} {i : Nat} (hi : i < p.length) :
    p.partner (i + 1) .backward = .ok i ↔ p.get? i = some .opening := by
  rw [partner_backward_eq_ok_iff]
  exact and_iff_left (nested_refl hi)

namespace State

/-- The run stands on the closing bracket of an empty loop, on a cell that is not zero: the jump
leads back to where it sets out from. -/
structure Spins (p : Program) (s : State) : Prop where
  going : s.done = false
  closing : p.get? s.position = some .closing
  guard : s.cell ≠ 0
  opening : ∃ i, s.position = i + 1 ∧ p.get? i = some .opening

variable {p : Program} {m : Machine} {s t : State} {o : Outcome}

/-! ### Where control stands still -/

/-- **Control stands still** when the closing bracket of an empty loop jumps, and only then. -/
theorem next_eq_position_iff {cell : UInt8} {x : Instruction} {e : Effect}
    (fetch : p.get? s.position = some x) (h : s.effect p cell x = .ok e) :
    e.next s.position = s.position ↔
      x = .closing ∧ cell ≠ 0 ∧ ∃ i, s.position = i + 1 ∧ p.get? i = some .opening := by
  have hpos : s.position < p.length := Program.lt_length_of_get? fetch
  cases x with
  | right | left | increment | decrement | output | input =>
      cases h
      simp [Effect.next]
  | opening =>
      -- a partner to the right lies behind the bracket
      rcases branch_eq_ok_iff.mp h with ⟨-, rfl⟩ | ⟨-, j, hj, rfl⟩
      · simp [Effect.next]
      · have := (Program.partner_forward_eq_ok_iff.mp hj).2.le
        simp only [Effect.next, reduceCtorEq, false_and, iff_false]
        omega
  | closing =>
      rcases branch_eq_ok_iff.mp h with ⟨hg, rfl⟩ | ⟨hg, j, hj, rfl⟩
      · have hcell : cell = 0 := by simpa [Side.guard] using hg
        simp [Effect.next, hcell]
      · have hcell : cell ≠ 0 := by simpa [Side.guard] using hg
        constructor
        · intro hnext
          have hnext : s.position = j + 1 := hnext.symm
          rw [hnext] at hj hpos
          exact ⟨rfl, hcell, j, hnext,
            (Program.partner_backward_succ_iff (Nat.lt_of_succ_lt hpos)).mp hj⟩
        · rintro ⟨-, -, i, hi, ho⟩
          rw [hi] at hj hpos
          rw [Side.direction,
            (Program.partner_backward_succ_iff (Nat.lt_of_succ_lt hpos)).mpr ho] at hj
          cases hj
          exact hi.symm

/-! ### Steps that change nothing -/

theorem position_eq_of_agrees (h : t.agrees s = true) : t.position = s.position := by
  rw [← ((agrees_iff t s).mp h).2]

theorem done_eq_of_agrees (h : t.agrees s = true) : t.done = s.done := by
  rw [← ((agrees_iff t s).mp h).2]

/-- A run that spins stays where it is. -/
theorem Spins.eq_of_step (hspins : s.Spins p) (hv : s.Valid p m) (h : s.step p = .ok (t, o)) :
    t = s := by
  obtain ⟨going, closing, guard, opening⟩ := hspins
  cases step_eq_ok_iff.mp h with
  | frozen ended => rfl
  | faulted _ fetch read effect =>
      -- the partner is there, so the bracket does not fault
      cases closing.symm.trans fetch
      obtain ⟨i, hi, ho⟩ := opening
      have hpos := Program.lt_length_of_get? closing
      obtain ⟨-, hnone⟩ := Program.partner_eq_error_iff.mp (branch_eq_error_iff.mp effect).2
      rw [hi] at hpos hnone
      exact absurd ((Program.partner_backward_succ_iff (Nat.lt_of_succ_lt hpos)).mpr ho) (hnone i)
  | @applied x cell e _ fetch read effect inside =>
      cases closing.symm.trans fetch
      rw [cell?_eq_some_cell read] at guard
      have hnext := (next_eq_position_iff fetch effect).mpr ⟨rfl, guard, opening⟩
      have hne : s.position ≠ p.length := Nat.ne_of_lt (hv.position_lt going)
      -- an effect that does not move control by one is a jump, and changes no data
      cases e with
      | jumped j =>
          rw [hv.toFits.proceed_perform, hnext]
          simp only [absorb, hne, if_false, decide_false, ← going]
      | moved _ | changed _ _ _ | emitted _ | ignored | passed =>
          exact absurd hnext (Nat.succ_ne_self _)

/-- **A step changes nothing** when the run is over or spins, and only then. -/
theorem Valid.agrees_iff_of_step (hv : s.Valid p m) (h : s.step p = .ok (t, o)) :
    t.agrees s = true ↔ s.done = true ∨ s.Spins p := by
  constructor
  · intro hsame
    cases step_eq_ok_iff.mp h with
    | frozen ended => exact .inl ended
    | faulted going fetch read effect => exact .inl (done_eq_of_agrees hsame).symm
    | @applied x cell e going fetch read effect inside =>
        have hdone : decide (e.next s.position = p.length) = false :=
          (done_eq_of_agrees hsame).trans going
        have hstays := position_eq_of_agrees hsame
        rw [decide_eq_false_iff_not] at hdone
        simp only [proceed, if_neg hdone] at hstays
        obtain ⟨rfl, guard, opening⟩ := (next_eq_position_iff fetch effect).mp hstays
        rw [← cell?_eq_some_cell read] at guard
        exact .inr ⟨going, fetch, guard, opening⟩
  · rintro (ended | hspins)
    · rw [step_of_done ended] at h
      cases h
      exact agrees_refl s
    · rw [hspins.eq_of_step hv h]
      exact agrees_refl s

/-- A run that spins does so for ever. -/
theorem Spins.after (hspins : s.Spins p) (hv : s.Valid p m) (n : Nat) : s.after p n = .ok s := by
  obtain ⟨t, o, hstep⟩ := hv.exists_step
  obtain rfl := hspins.eq_of_step hv hstep
  induction n with
  | zero => rfl
  | succ n ih => rw [after_succ_of_step hstep, ih]

/-- A step reports progress unless it finds the run over. -/
theorem madeProgress_iff_of_step (h : s.step p = .ok (t, o)) :
    o.madeProgress = true ↔ s.done = false := by
  cases step_eq_ok_iff.mp h with
  | frozen ended => simp [Outcome.madeProgress, ended]
  | faulted going | applied going => simp [Outcome.madeProgress, going]

/-- **Progress is change, except in an empty loop.**  In every state that a run reaches, a step
reports progress exactly when the state after it differs from the state before it, unless the run
spins.  Then the step reports progress and changes nothing, and neither does any step after it. -/
theorem progress_is_change_unless_spinning (p : Program) (m : Machine) (n : Nat) :
    ∃ s t o, (start p m).after p n = .ok s ∧ s.step p = .ok (t, o) ∧
      (¬s.Spins p → (o.madeProgress = true ↔ t.agrees s = false)) ∧
      (s.Spins p → o.madeProgress = true ∧ t = s ∧ ∀ k, s.after p k = .ok s) := by
  obtain ⟨s, hs, hv⟩ := exists_after_valid p m n
  obtain ⟨t, o, hstep⟩ := hv.exists_step
  have hprogress := madeProgress_iff_of_step hstep
  refine ⟨s, t, o, hs, hstep, ?_, ?_⟩
  · intro hspins
    rw [hprogress, ← Bool.not_eq_true, ← Bool.not_eq_true, hv.agrees_iff_of_step hstep,
      or_iff_left hspins]
  · intro hspins
    exact ⟨hprogress.mpr hspins.going, hspins.eq_of_step hv hstep, hspins.after hv⟩

/-- Behind one increment, the end of an empty loop reports progress and changes nothing. -/
theorem progress_without_change :
    ∃ s o, (start (Program.ofSource "+[]") Machine.standard).after (Program.ofSource "+[]") 2 =
        .ok s ∧
      s.step (Program.ofSource "+[]") = .ok (s, o) ∧ o.madeProgress = true :=
  ⟨_, _, rfl, rfl, rfl⟩

end State

end TapeMachine
