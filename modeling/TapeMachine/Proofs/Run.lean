/-
**Steps and runs.**

Everything that is proved about a run is proved about one step first.  What one step can do is said
here once: nothing when the run is over, a fault when a bracket has to jump and has no partner, and
otherwise the effect of the instruction.  Every later proof takes a step apart through this relation
and never unfolds the step itself.  A run is a number of steps; the second half of the module says
how runs are put together and cut into pieces.

Main definitions:

* `TapeMachine.State.Transition` — what one step can do, as a relation.

Main results:

* `TapeMachine.State.step_eq_ok_iff` — the relation is the step;
* `TapeMachine.State.effect_eq_error_iff` — **when an instruction faults**;
* `TapeMachine.State.effect_next_le` — control never leaves the program;
* `TapeMachine.State.after_add`, `TapeMachine.State.after_succ_last` — a run, cut into two.
-/

import TapeMachine.Proofs.Nesting
import TapeMachine.Step

set_option relaxedAutoImplicit false
set_option autoImplicit false

namespace TapeMachine

namespace State

/-! ### One step -/

/-- What one step can do. -/
inductive Transition (p : Program) (s : State) : State → Outcome → Prop where
  /-- A run that is over stays as it is. -/
  | frozen (ended : s.done = true) : Transition p s s .frozen
  /-- A bracket has to jump and has no partner. -/
  | faulted {x : Instruction} {cell : UInt8} {u : Unmatched} (going : s.done = false)
      (fetch : p.get? s.position = some x) (read : s.cell? = some cell)
      (effect : s.effect p cell x = .error u) : Transition p s (s.halt u) (.faulted u)
  /-- An instruction is executed. -/
  | applied {x : Instruction} {cell : UInt8} {e : Effect} (going : s.done = false)
      (fetch : p.get? s.position = some x) (read : s.cell? = some cell)
      (effect : s.effect p cell x = .ok e) (inside : e.next s.position ≤ p.length) :
      Transition p s ((s.perform e).proceed p.length (e.next s.position))
        (.applied s.position x e (e.next s.position = p.length))

/-- **The relation is the step.** -/
theorem step_eq_ok_iff {p : Program} {s t : State} {o : Outcome} :
    s.step p = .ok (t, o) ↔ Transition p s t o := by
  constructor
  · intro h
    -- one test of the step after the other: is the run over, is there an instruction, is there a
    -- cell, does the instruction fault, does control stay in the program
    unfold step at h
    split at h
    · rename_i hd
      cases h
      exact .frozen hd
    · rename_i hd
      have hd : s.done = false := Bool.not_eq_true _ ▸ hd
      split at h
      · cases h
      · rename_i x hx
        split at h
        · cases h
        · rename_i cell hc
          split at h
          · rename_i u hu
            cases h
            exact .faulted hd hx hc hu
          · rename_i e he
            dsimp only at h
            split at h
            · cases h
            · rename_i hn
              cases h
              exact .applied hd hx hc he (Nat.le_of_not_lt hn)
  · intro h
    cases h with
    | frozen ended => exact step_of_done ended
    | faulted going fetch read effect =>
        simp [step, going, fetch, read, effect]
    | applied going fetch read effect inside =>
        simp [step, going, fetch, read, effect, Nat.not_lt.mpr inside]

/-- A bracket reports itself, when its guard holds and it has no partner. -/
theorem branch_eq_error_iff {p : Program} {s : State} {side : Side} {cell : UInt8}
    {u : Unmatched} :
    s.branch p side cell = .error u ↔
      side.guard cell = true ∧ p.partner s.position side.direction = .error u := by
  unfold branch
  split
  · rename_i hg
    cases p.partner s.position side.direction <;> simp [hg, Except.map]
  · rename_i hg
    simp [hg]

/-- A bracket passes when its guard does not hold, and else jumps to its partner. -/
theorem branch_eq_ok_iff {p : Program} {s : State} {side : Side} {cell : UInt8} {e : Effect} :
    s.branch p side cell = .ok e ↔
      (side.guard cell = false ∧ e = .passed) ∨
      (side.guard cell = true ∧
        ∃ j, p.partner s.position side.direction = .ok j ∧ e = .jumped j) := by
  unfold branch
  split
  · rename_i hg
    cases p.partner s.position side.direction <;> simp [hg, Except.map, eq_comm]
  · rename_i hg
    simp [hg, eq_comm]

/-- What an instruction does is decided by its bracket, if it is one. -/
theorem effect_instruction (p : Program) (s : State) (cell : UInt8) (side : Side) :
    s.effect p cell side.instruction = s.branch p side cell := by
  cases side <;> rfl

/-- **An instruction faults** when it is a bracket that has to jump and has no partner. -/
theorem effect_eq_error_iff {p : Program} {s : State} {cell : UInt8} {x : Instruction}
    {u : Unmatched} :
    s.effect p cell x = .error u ↔
      ∃ side : Side, x = side.instruction ∧ side.guard cell = true ∧
        p.partner s.position side.direction = .error u := by
  constructor
  · intro h
    cases x with
    | opening => exact ⟨.opening, rfl, branch_eq_error_iff.mp h⟩
    | closing => exact ⟨.closing, rfl, branch_eq_error_iff.mp h⟩
    | right | left | increment | decrement | output | input => cases h
  · rintro ⟨side, rfl, h⟩
    rw [effect_instruction]
    exact branch_eq_error_iff.mpr h

/-- A fault is reported at the current position. -/
theorem position_of_effect_error {p : Program} {s : State} {cell : UInt8} {x : Instruction}
    {u : Unmatched} (h : s.effect p cell x = .error u) : u.position = s.position := by
  obtain ⟨side, _, _, hp⟩ := effect_eq_error_iff.mp h
  rw [(Program.partner_eq_error_iff.mp hp).1]

/-- **Control never leaves the program**: behind a jump it continues at most at the end. -/
theorem effect_next_le {p : Program} {s : State} {cell : UInt8} {x : Instruction} {e : Effect}
    (hx : s.position < p.length) (h : s.effect p cell x = .ok e) :
    e.next s.position ≤ p.length := by
  have hbranch : ∀ side : Side, s.branch p side cell = .ok e → e.next s.position ≤ p.length := by
    intro side hb
    rcases branch_eq_ok_iff.mp hb with ⟨_, rfl⟩ | ⟨_, j, hj, rfl⟩
    · exact hx
    · exact Program.lt_length_of_partner hj
  cases x with
  | opening => exact hbranch .opening h
  | closing => exact hbranch .closing h
  | right | left | increment | decrement | output | input =>
      cases h
      exact hx

/-! ### Several steps -/

theorem next_eq_ok_iff {p : Program} {s t : State} :
    s.next p = .ok t ↔ ∃ o, s.step p = .ok (t, o) := by
  unfold next
  cases s.step p with
  | error b => simp [Except.map]
  | ok r =>
      obtain ⟨t', o⟩ := r
      simp only [Except.map, Except.ok.injEq, Prod.mk.injEq, exists_and_left, exists_eq', and_true]

/-- A run begins with a step. -/
theorem after_succ_of_next {p : Program} {s t : State} (h : s.next p = .ok t) (n : Nat) :
    s.after p (n + 1) = t.after p n := by
  simp only [after, h]
  rfl

theorem after_succ_of_step {p : Program} {s t : State} {o : Outcome} (h : s.step p = .ok (t, o))
    (n : Nat) : s.after p (n + 1) = t.after p n :=
  after_succ_of_next (next_eq_ok_iff.mpr ⟨o, h⟩) n

/-- A run of `m + n` steps is one of `m`, and from where it ends one of `n`. -/
theorem after_add {p : Program} {s t : State} {m : Nat} (h : s.after p m = .ok t) (n : Nat) :
    s.after p (m + n) = t.after p n := by
  induction m generalizing s with
  | zero =>
      cases h
      rw [Nat.zero_add]
  | succ m ih =>
      rw [Nat.add_right_comm]
      simp only [after] at h ⊢
      cases hn : s.next p with
      | error b =>
          rw [hn] at h
          cases h
      | ok r =>
          rw [hn] at h
          exact ih h

/-- A run ends with a step. -/
theorem after_succ_last {p : Program} {s t : State} {n : Nat} (h : s.after p n = .ok t) :
    s.after p (n + 1) = t.next p := by
  rw [after_add h 1]
  simp only [after]
  cases t.next p <;> rfl

/-- A run that is over stays as it is, however many steps are asked for. -/
theorem after_of_done {p : Program} {s : State} (h : s.done = true) (n : Nat) :
    s.after p n = .ok s := by
  induction n with
  | zero => rfl
  | succ n ih => rw [after_succ_of_step (step_of_done h), ih]

/-- Two runs from one state that are over ended in the same state. -/
theorem after_done_unique {p : Program} {s t u : State} {m n : Nat} (ht : s.after p m = .ok t)
    (hu : s.after p n = .ok u) (htd : t.done = true) (hud : u.done = true) : t = u := by
  have h₁ := after_add ht n
  have h₂ := after_add hu m
  rw [after_of_done htd] at h₁
  rw [after_of_done hud, Nat.add_comm, h₁] at h₂
  exact Except.ok.inj h₂

end State

end TapeMachine
