/-
**Valid states.**

A state of a run fits its program and its machine: the pointer is on the tape and between its marks,
every cell counts below the modulus, and the next instruction lies in the program.  Nothing in the
type of states says so.  Here it is proved of the state a run starts in and kept by every step, and
so it holds in every state that is ever reached; in particular no contract of a step is ever broken.

Main definitions:

* `TapeMachine.Effect.Fits`, `TapeMachine.State.Fits` — an effect and the data of a state fit a
  machine;
* `TapeMachine.State.Valid` — a state fits its program and its machine.

Main results:

* `TapeMachine.State.Valid.exists_step` — **from a valid state every step succeeds**;
* `TapeMachine.State.Valid.step` — a step keeps a state valid;
* `TapeMachine.State.exists_after_valid` — every number of steps leads to a valid state;
* `TapeMachine.State.reached_states_are_valid` — what that means, written out.
-/

import TapeMachine.Proofs.Run

set_option relaxedAutoImplicit false
set_option autoImplicit false

namespace TapeMachine

/-- An effect keeps the pointer on the tape and the cells below the modulus. -/
def Effect.Fits (m : Machine) : Effect → Prop
  | moved target => target < m.capacity
  | changed _ _ after => after.toNat < m.modulus
  | emitted _ | ignored | jumped _ | passed => True

namespace State

/-- The data of a state fit the machine. -/
structure Fits (m : Machine) (s : State) : Prop where
  /-- The tape is as long as the machine's. -/
  capacity : s.tape.capacity = m.capacity
  /-- Cells wrap around where the machine's do. -/
  modulus : s.tape.modulus = m.modulus
  /-- Every cell counts below the modulus. -/
  cell_lt : ∀ i v, s.tape.get? i = some v → v.toNat < m.modulus
  /-- The pointer is on the tape. -/
  pointer_lt : s.pointer < m.capacity
  /-- The pointer is not below the lowest cell visited. -/
  lowest_le : s.lowest ≤ s.pointer
  /-- The pointer is not above the highest cell visited. -/
  le_highest : s.pointer ≤ s.highest
  /-- The highest cell visited is on the tape. -/
  highest_lt : s.highest < m.capacity

/-- A state fits its program and its machine. -/
structure Valid (p : Program) (m : Machine) (s : State) : Prop extends s.Fits m where
  /-- The next instruction lies in the program, unless the program is empty and the run over. -/
  position : s.position < p.length ∨ (p.length = 0 ∧ s.position = 0 ∧ s.done = true)
  /-- A run that ends without a fault ends on the last instruction. -/
  at_end : s.done = true → s.fault? = none → 0 < p.length → s.position = p.length - 1

/-! ### The beginning of a run -/

theorem fits_start (p : Program) (m : Machine) : (start p m).Fits m where
  capacity := rfl
  modulus := rfl
  cell_lt i v h := by
    have hv : v = 0 := by
      simp only [start, Tape.get?_blank] at h
      split at h <;> cases h
      rfl
    have := m.two_le_modulus
    rw [hv, UInt8.toNat_zero]
    omega
  pointer_lt := m.capacity_pos
  lowest_le := Nat.le_refl 0
  le_highest := Nat.le_refl 0
  highest_lt := m.capacity_pos

theorem valid_start (p : Program) (m : Machine) : (start p m).Valid p m where
  toFits := fits_start p m
  position := by
    rcases Nat.eq_zero_or_pos p.length with h | h
    · exact .inr ⟨h, rfl, p.isEmpty_iff.mpr h⟩
    · exact .inl h
  at_end hd _ hp := by
    have := p.isEmpty_iff.mp hd
    omega

/-! ### One step -/

namespace Fits

variable {m : Machine} {s : State}

/-- The pointer of a fitting state stands on a cell. -/
theorem exists_cell (h : s.Fits m) : ∃ v, s.cell? = some v := by
  have : s.pointer < s.tape.capacity := by
    rw [h.capacity]
    exact h.pointer_lt
  exact ⟨_, if_pos this⟩

theorem toNat_succ (h : s.Fits m) (v : UInt8) :
    (s.tape.succ v).toNat = (v.toNat + 1) % m.modulus := by
  have h₁ := m.two_le_modulus
  have h₂ := m.modulus_le
  rw [← h.modulus] at h₁ h₂ ⊢
  exact s.tape.toNat_succ v (by omega) h₂

theorem toNat_pred (h : s.Fits m) (v : UInt8) :
    (s.tape.pred v).toNat = (v.toNat + m.modulus - 1) % m.modulus := by
  have h₁ := m.two_le_modulus
  have h₂ := m.modulus_le
  rw [← h.modulus] at h₁ h₂ ⊢
  exact s.tape.toNat_pred v (by omega) h₂

/-- Every instruction has a fitting effect, if it has one. -/
theorem effect {p : Program} {cell : UInt8} {x : Instruction} {e : Effect} (h : s.Fits m)
    (he : s.effect p cell x = .ok e) : e.Fits m := by
  have hm := m.two_le_modulus
  have hbranch : ∀ side : Side, s.branch p side cell = .ok e → e.Fits m := by
    intro side hb
    rcases branch_eq_ok_iff.mp hb with ⟨_, rfl⟩ | ⟨_, j, _, rfl⟩ <;> trivial
  cases x with
  | right =>
      cases he
      have := m.capacity_pos
      show min (s.pointer + 1) (s.tape.capacity - 1) < m.capacity
      rw [h.capacity]
      omega
  | left =>
      cases he
      have := h.pointer_lt
      show s.pointer - 1 < m.capacity
      omega
  | increment =>
      cases he
      show (s.tape.succ cell).toNat < m.modulus
      rw [h.toNat_succ]
      exact Nat.mod_lt _ (by omega)
  | decrement =>
      cases he
      show (s.tape.pred cell).toNat < m.modulus
      rw [h.toNat_pred]
      exact Nat.mod_lt _ (by omega)
  | output | input =>
      cases he
      trivial
  | opening => exact hbranch .opening he
  | closing => exact hbranch .closing he

/-- Moving on without a change of data takes the pointer into the marks. -/
theorem proceed (h : s.Fits m) (length next : Nat) : (s.proceed length next).Fits m where
  capacity := h.capacity
  modulus := h.modulus
  cell_lt := h.cell_lt
  pointer_lt := h.pointer_lt
  lowest_le := Nat.min_le_right _ _
  le_highest := Nat.le_max_right _ _
  highest_lt := Nat.max_lt.mpr ⟨h.highest_lt, h.pointer_lt⟩

/-- Carrying out a fitting effect and moving on keeps the data fitting. -/
theorem perform {e : Effect} (h : s.Fits m) (he : e.Fits m) (length next : Nat) :
    ((s.perform e).proceed length next).Fits m := by
  cases e with
  | moved target =>
      exact ⟨h.capacity, h.modulus, h.cell_lt, he, Nat.min_le_right _ _, Nat.le_max_right _ _,
        Nat.max_lt.mpr ⟨h.highest_lt, he⟩⟩
  | changed cell before after =>
      refine proceed (s := s.perform (.changed cell before after)) ⟨?_, ?_, ?_, h.pointer_lt,
        h.lowest_le, h.le_highest, h.highest_lt⟩ length next
      · exact (Tape.capacity_set _ _ _).trans h.capacity
      · exact (Tape.modulus_set _ _ _).trans h.modulus
      · intro i v hv
        have hv : (s.tape.set cell after).get? i = some v := hv
        rw [Tape.get?_set] at hv
        split at hv
        · cases hv
          exact he
        · exact h.cell_lt i v hv
  | emitted value =>
      exact proceed (s := s.perform (.emitted value)) ⟨h.capacity, h.modulus, h.cell_lt,
        h.pointer_lt, h.lowest_le, h.le_highest, h.highest_lt⟩ length next
  | ignored | jumped _ | passed => exact h.proceed length next

theorem halt (h : s.Fits m) (u : Unmatched) : (s.halt u).Fits m :=
  ⟨h.capacity, h.modulus, h.cell_lt, h.pointer_lt, h.lowest_le, h.le_highest, h.highest_lt⟩

end Fits

/-- A run that ends with a fault has it in the log. -/
theorem fault?_halt (s : State) (u : Unmatched) : (s.halt u).fault? = some u := by
  simp only [halt, fault?, Array.toList_push, List.reverse_append, List.reverse_singleton,
    List.singleton_append]
  rfl

namespace Valid

variable {p : Program} {m : Machine} {s : State}

/-- A run that is not over stands on an instruction. -/
theorem position_lt (h : s.Valid p m) (hd : s.done = false) : s.position < p.length := by
  rcases h.position with hp | ⟨_, _, hp⟩
  · exact hp
  · rw [hd] at hp
    cases hp

/-- **From a valid state every step succeeds.** -/
theorem exists_step (h : s.Valid p m) : ∃ t o, s.step p = .ok (t, o) := by
  cases hd : s.done with
  | true => exact ⟨s, .frozen, step_of_done hd⟩
  | false =>
      obtain ⟨x, hx⟩ := Program.get?_eq_some_of_lt (h.position_lt hd)
      obtain ⟨cell, hc⟩ := h.exists_cell
      cases he : s.effect p cell x with
      | error u => exact ⟨_, _, step_eq_ok_iff.mpr (.faulted hd hx hc he)⟩
      | ok e =>
          have hn := effect_next_le (h.position_lt hd) he
          exact ⟨_, _, step_eq_ok_iff.mpr (.applied hd hx hc he hn)⟩

/-- **A step keeps a state valid.** -/
theorem step {t : State} {o : Outcome} (h : s.Valid p m) (hs : s.step p = .ok (t, o)) :
    t.Valid p m := by
  cases step_eq_ok_iff.mp hs with
  | frozen ended => exact h
  | @faulted x cell u going fetch read effect =>
      -- the position is left on the bracket, and the log has the fault
      refine ⟨h.halt u, .inl ?_, fun _ hf _ => ?_⟩
      · show u.position < p.length
        rw [position_of_effect_error effect]
        exact h.position_lt going
      · rw [fault?_halt] at hf
        cases hf
  | @applied x cell e going fetch read effect inside =>
      have := h.position_lt going
      have hf := h.perform (h.toFits.effect effect) p.length (e.next s.position)
      refine ⟨hf, .inl ?_, fun hd _ _ => ?_⟩
      -- behind the last instruction the position stays on it
      · simp only [State.proceed]
        split <;> omega
      · simp only [State.proceed, decide_eq_true_eq] at hd ⊢
        rw [if_pos hd]

end Valid

/-! ### Every state that is reached -/

/-- From a valid state every number of steps leads to a valid state. -/
theorem Valid.exists_after {p : Program} {m : Machine} {s : State} (h : s.Valid p m) (n : Nat) :
    ∃ t, s.after p n = .ok t ∧ t.Valid p m := by
  induction n generalizing s with
  | zero => exact ⟨s, rfl, h⟩
  | succ n ih =>
      obtain ⟨t, o, hs⟩ := h.exists_step
      rw [after_succ_of_step hs]
      exact ih (h.step hs)

theorem exists_after_valid (p : Program) (m : Machine) (n : Nat) :
    ∃ t, (start p m).after p n = .ok t ∧ t.Valid p m :=
  (valid_start p m).exists_after n

theorem valid_of_after {p : Program} {m : Machine} {n : Nat} {s : State}
    (h : (start p m).after p n = .ok s) : s.Valid p m := by
  obtain ⟨t, ht, hv⟩ := exists_after_valid p m n
  rw [h] at ht
  cases ht
  exact hv

/-- **Every state that is reached is valid**, on every program and every machine: every number of
steps can be taken, and leads to a state that fits, from which a step can be taken.  Counting up
and down in its cells needs no more than 16 bits on the way, and what is stored is the exact
result. -/
theorem reached_states_are_valid (p : Program) (m : Machine) (n : Nat) :
    ∃ s, (start p m).after p n = .ok s ∧ s.Valid p m ∧ (∃ t o, s.step p = .ok (t, o)) ∧
      ∀ i v, s.tape.get? i = some v →
        v.toNat + m.modulus < UInt16.size ∧
        (s.tape.succ v).toNat = (v.toNat + 1) % m.modulus ∧
        (s.tape.pred v).toNat = (v.toNat + m.modulus - 1) % m.modulus := by
  obtain ⟨s, hs, hv⟩ := exists_after_valid p m n
  refine ⟨s, hs, hv, hv.exists_step, fun i v hi => ?_⟩
  have h₁ := hv.cell_lt i v hi
  have h₂ := m.modulus_le
  have hsize : UInt16.size = 65536 := rfl
  exact ⟨by omega, hv.toNat_succ v, hv.toNat_pred v⟩

end State

end TapeMachine
