/-
**The window over the tape.**

Of a long tape only a window is shown.  It is cut along two marks that every step moves, and a
reader of the screen trusts that nothing happened outside of them.  This module proves it.  The
marks are exactly the lowest and the highest cell that the pointer was on in the whole run so far,
and not merely bounds of them; a cell is only ever written while the pointer is on it; so every cell
outside the marks is still zero, and the window takes in everything there is to see.

A step that faults leaves the marks as they are, and so does one that finds the run over.  Both
leave the pointer alone too, which is why a single equation for the marks holds of every step.

Main definitions:

* `TapeMachine.State.visited` — the cells that the pointer was on in the first steps of a run.

Main results:

* `TapeMachine.State.Valid.marks_of_step` — **what a step does to the marks**;
* `TapeMachine.State.marks_are_extremes` — the marks are the extremes of the cells visited;
* `TapeMachine.State.get?_of_step` — a step writes no cell but the one the pointer is on;
* `TapeMachine.State.eq_zero_of_outside` — outside the marks every cell is zero;
* `TapeMachine.State.mem_windowCells_iff`, `TapeMachine.State.length_windowCells` — the cells in the
  window;
* `TapeMachine.State.window_hides_nothing` — what follows for the window.
-/

import Mathlib.Order.Bounds.Basic
import TapeMachine.Proofs.Validity
import TapeMachine.Viewer.Cells

set_option relaxedAutoImplicit false
set_option autoImplicit false

namespace TapeMachine

namespace State

/-- The cells that the pointer was on in a run, at its beginning and after each of the first `n`
steps. -/
def visited (p : Program) (m : Machine) (n : Nat) : Set Nat :=
  {i | ∃ k ≤ n, ∃ t, (start p m).after p k = .ok t ∧ t.pointer = i}

variable {p : Program} {m : Machine} {s t : State} {o : Outcome} {n : Nat}

/-! ### The cells visited -/

theorem visited_zero (p : Program) (m : Machine) : visited p m 0 = {0} := by
  ext i
  constructor
  · rintro ⟨k, hk, t, ht, rfl⟩
    obtain rfl := Nat.le_zero.mp hk
    cases ht
    rfl
  · rintro rfl
    exact ⟨0, Nat.le_refl 0, start p m, rfl, rfl⟩

/-- With a step the cell it leads to joins the cells visited. -/
theorem visited_succ (hs : (start p m).after p n = .ok s) (h : s.step p = .ok (t, o)) :
    visited p m (n + 1) = insert t.pointer (visited p m n) := by
  have hlast : (start p m).after p (n + 1) = .ok t := by
    rw [after_succ_last hs]
    exact next_eq_ok_iff.mpr ⟨o, h⟩
  ext i
  constructor
  · rintro ⟨k, hk, u, hu, rfl⟩
    rcases Nat.le_succ_iff.mp hk with hk | rfl
    · exact .inr ⟨k, hk, u, hu, rfl⟩
    · cases hlast.symm.trans hu
      exact .inl rfl
  · rintro (rfl | ⟨k, hk, u, hu, rfl⟩)
    · exact ⟨n + 1, Nat.le_refl _, t, hlast, rfl⟩
    · exact ⟨k, Nat.le_succ_of_le hk, u, hu, rfl⟩

/-! ### The marks -/

/-- **The marks take in the cell that a step leads to**, and move no further than that. -/
theorem Valid.marks_of_step (hv : s.Valid p m) (h : s.step p = .ok (t, o)) :
    t.lowest = min t.pointer s.lowest ∧ t.highest = max t.pointer s.highest := by
  -- where the pointer stays, it lies between the marks already
  have hlow : s.lowest = min s.pointer s.lowest := (Nat.min_eq_right hv.lowest_le).symm
  have hhigh : s.highest = max s.pointer s.highest := (Nat.max_eq_right hv.le_highest).symm
  cases step_eq_ok_iff.mp h with
  | frozen ended => exact ⟨hlow, hhigh⟩
  | faulted going fetch read effect => exact ⟨hlow, hhigh⟩
  | @applied x cell e going fetch read effect inside =>
      have hmarks : (s.perform e).lowest = s.lowest ∧ (s.perform e).highest = s.highest := by
        cases e <;> exact ⟨rfl, rfl⟩
      simp only [proceed, hmarks.1, hmarks.2]
      exact ⟨Nat.min_comm _ _, Nat.max_comm _ _⟩

/-- **The marks are the least and the greatest cell visited** in the whole run so far. -/
theorem marks_are_extremes (h : (start p m).after p n = .ok s) :
    IsLeast (visited p m n) s.lowest ∧ IsGreatest (visited p m n) s.highest := by
  induction n generalizing s with
  | zero =>
      cases h
      rw [visited_zero]
      exact ⟨isLeast_singleton, isGreatest_singleton⟩
  | succ n ih =>
      obtain ⟨r, hr, hv⟩ := exists_after_valid p m n
      rw [after_succ_last hr] at h
      obtain ⟨o, hstep⟩ := next_eq_ok_iff.mp h
      obtain ⟨hlow, hhigh⟩ := hv.marks_of_step hstep
      obtain ⟨hleast, hgreatest⟩ := ih hr
      rw [visited_succ hr hstep, hlow, hhigh]
      exact ⟨hleast.insert s.pointer, hgreatest.insert s.pointer⟩

/-- A run sets out from the first cell, so the lower mark stays there. -/
theorem lowest_eq_zero (h : (start p m).after p n = .ok s) : s.lowest = 0 :=
  Nat.le_zero.mp ((marks_are_extremes h).1.2 ⟨0, Nat.zero_le n, start p m, rfl, rfl⟩)

/-! ### The cells outside the marks -/

/-- An effect writes no cell but the one the pointer is on. -/
theorem get?_perform {cell : UInt8} {x : Instruction} {e : Effect}
    (h : s.effect p cell x = .ok e) {i : Nat} (hi : i ≠ s.pointer) :
    (s.perform e).tape.get? i = s.tape.get? i := by
  have hbranch : ∀ side : Side, s.branch p side cell = .ok e →
      (s.perform e).tape.get? i = s.tape.get? i := by
    intro side hb
    rcases branch_eq_ok_iff.mp hb with ⟨-, rfl⟩ | ⟨-, j, -, rfl⟩ <;> rfl
  cases x with
  | increment | decrement =>
      cases h
      exact (Tape.get?_set _ _ _ _).trans (if_neg fun hc => hi hc.1.symm)
  | right | left | output | input =>
      cases h
      rfl
  | opening => exact hbranch .opening h
  | closing => exact hbranch .closing h

/-- **A step writes no cell but the one the pointer is on.** -/
theorem get?_of_step (h : s.step p = .ok (t, o)) {i : Nat} (hi : i ≠ s.pointer) :
    t.tape.get? i = s.tape.get? i := by
  cases step_eq_ok_iff.mp h with
  | frozen ended => rfl
  | faulted going fetch read effect => rfl
  | applied going fetch read effect inside => exact get?_perform effect hi

/-- **Outside the marks every cell is zero.** -/
theorem eq_zero_of_outside (h : (start p m).after p n = .ok s) {i : Nat} {v : UInt8}
    (hv : s.tape.get? i = some v) (hi : i < s.lowest ∨ s.highest < i) : v = 0 := by
  induction n generalizing s with
  | zero =>
      cases h
      simp only [start, Tape.get?_blank] at hv
      split at hv <;> cases hv
      rfl
  | succ n ih =>
      obtain ⟨r, hr, hvalid⟩ := exists_after_valid p m n
      rw [after_succ_last hr] at h
      obtain ⟨o, hstep⟩ := next_eq_ok_iff.mp h
      -- the marks only ever move apart, and the pointer was between them before the step
      obtain ⟨hlow, hhigh⟩ := hvalid.marks_of_step hstep
      have hle := hvalid.lowest_le
      have hge := hvalid.le_highest
      have houtside : i < r.lowest ∨ r.highest < i := by omega
      rw [get?_of_step hstep (by omega)] at hv
      exact ih hr hv houtside

/-! ### The window -/

/-- **The cells in the window** are those from its first to its last. -/
theorem mem_windowCells_iff (s : State) (i : Nat) :
    i ∈ s.windowCells ↔ s.window.1 ≤ i ∧ i ≤ s.window.2 := by
  simp only [windowCells, List.mem_map, List.mem_range]
  constructor
  · rintro ⟨k, hk, rfl⟩
    omega
  · rintro ⟨h₁, h₂⟩
    exact ⟨i - s.window.1, by omega, by omega⟩

theorem length_windowCells (s : State) :
    s.windowCells.length = s.window.2 + 1 - s.window.1 := by
  simp [windowCells]

/-- The cells between the marks are in the window. -/
theorem Fits.mem_windowCells (h : s.Fits m) {i : Nat} (h₁ : s.lowest ≤ i) (h₂ : i ≤ s.highest) :
    i ∈ s.windowCells := by
  have hlt := h.highest_lt
  rw [← h.capacity] at hlt
  rw [mem_windowCells_iff]
  dsimp only [window]
  omega

/-- **The window hides nothing.**  In every state that a run reaches, the marks are the lowest and
the highest cell that the pointer was on so far, and every cell outside of them is zero.  So the
window is a row of cells of the tape that holds the current cell and all that are not zero, and it
has at least thirty cells if the tape has. -/
theorem window_hides_nothing (p : Program) (m : Machine) (n : Nat) :
    ∃ s, (start p m).after p n = .ok s ∧
      IsLeast (visited p m n) s.lowest ∧ IsGreatest (visited p m n) s.highest ∧
      (∀ i v, s.tape.get? i = some v → i < s.lowest ∨ s.highest < i → v = 0) ∧
      s.window.1 ≤ s.window.2 ∧ s.window.2 < m.capacity ∧
      (∀ i, i ∈ s.windowCells ↔ s.window.1 ≤ i ∧ i ≤ s.window.2) ∧
      s.pointer ∈ s.windowCells ∧
      (∀ i v, s.tape.get? i = some v → v ≠ 0 → i ∈ s.windowCells) ∧
      min 30 m.capacity ≤ s.windowCells.length := by
  obtain ⟨s, hs, hv⟩ := exists_after_valid p m n
  have hcapacity := hv.capacity
  have hpos := m.capacity_pos
  have hzero := lowest_eq_zero hs
  have hpointer := hv.mem_windowCells hv.lowest_le hv.le_highest
  obtain ⟨h₁, h₂⟩ := (mem_windowCells_iff s _).mp hpointer
  obtain ⟨hleast, hgreatest⟩ := marks_are_extremes hs
  refine ⟨s, hs, hleast, hgreatest, fun i v => eq_zero_of_outside hs, Nat.le_trans h₁ h₂, ?_,
    mem_windowCells_iff s, hpointer, ?_, ?_⟩
  · dsimp only [window]
    omega
  · intro i v hi hne
    refine hv.mem_windowCells ?_ ?_
    · exact Nat.le_of_not_lt fun hlt => hne (eq_zero_of_outside hs hi (.inl hlt))
    · exact Nat.le_of_not_lt fun hlt => hne (eq_zero_of_outside hs hi (.inr hlt))
  · rw [length_windowCells]
    dsimp only [window, minWindow]
    omega

end State

end TapeMachine
