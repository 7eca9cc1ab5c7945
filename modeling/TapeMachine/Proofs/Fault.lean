/-
**Faults.**

A run can go wrong in one way only: a bracket has to jump and has no partner.  This module says when
that happens, what it changes and what it leaves behind.  A step faults exactly at a stray bracket
whose guard holds, all it does is to enter the fault in the log and to end the run, and so the log
of a run holds at most one fault, which is its last entry and tells how the run ended.

The history of a run carries the proof: either its log is clean so far, or it was clean up to the
step that faulted, and nothing happened afterwards.

Main definitions:

* `TapeMachine.State.Clean` — the log holds no fault.

Main results:

* `TapeMachine.State.step_eq_faulted_iff` — **when a step faults**, and what it does then;
* `TapeMachine.State.clean_or_faulted` — what a run has done up to a state it reaches;
* `TapeMachine.State.faults_are_exact` — faults are exact, terminal and otherwise harmless.
-/

import TapeMachine.Proofs.Stray

set_option relaxedAutoImplicit false
set_option autoImplicit false

namespace TapeMachine

namespace State

/-! ### The step that faults -/

theorem cell?_eq_some_cell {s : State} {cell : UInt8} (h : s.cell? = some cell) :
    s.cell = cell := by
  rw [State.cell, h]
  rfl

/-- An instruction faults when it is a stray bracket whose guard holds. -/
theorem effect_eq_error_iff_stray {p : Program} {s : State} {cell : UInt8} {x : Instruction}
    {u : Unmatched} (hx : p.get? s.position = some x) :
    s.effect p cell x = .error u ↔
      ∃ side, p.Stray s.position side ∧ side.guard cell = true ∧ u = ⟨s.position, side⟩ := by
  rw [effect_eq_error_iff]
  constructor
  · rintro ⟨side, rfl, hg, hp⟩
    obtain ⟨hu, hs⟩ := (Program.partner_eq_error_iff_stray hx).mp hp
    exact ⟨side, hs, hg, hu⟩
  · rintro ⟨side, hs, hg, hu⟩
    have hb := hs.bracket
    rw [hx] at hb
    cases hb
    exact ⟨side, rfl, hg, (Program.partner_eq_error_iff_stray hx).mpr ⟨hu, hs⟩⟩

theorem halt_position (s : State) (side : Side) :
    s.halt ⟨s.position, side⟩ =
      { s with log := s.log.push (.error ⟨s.position, side⟩), done := true } := rfl

/-- **A step faults** exactly when the run is not over and stands on a stray bracket whose guard
holds.  It then enters the fault in the log and ends the run, and changes nothing else. -/
theorem step_eq_faulted_iff {p : Program} {m : Machine} {s t : State} {u : Unmatched}
    (hv : s.Valid p m) :
    s.step p = .ok (t, .faulted u) ↔
      s.done = false ∧
      (∃ side, p.Stray s.position side ∧ side.guard s.cell = true ∧ u = ⟨s.position, side⟩) ∧
      t = { s with log := s.log.push (.error u), done := true } := by
  rw [step_eq_ok_iff]
  constructor
  · intro h
    cases h with
    | faulted going fetch read effect =>
        obtain ⟨side, hs, hg, rfl⟩ := (effect_eq_error_iff_stray fetch).mp effect
        rw [← cell?_eq_some_cell read] at hg
        exact ⟨going, ⟨side, hs, hg, rfl⟩, s.halt_position side⟩
  · rintro ⟨going, ⟨side, hs, hg, rfl⟩, rfl⟩
    obtain ⟨cell, read⟩ := hv.exists_cell
    rw [cell?_eq_some_cell read] at hg
    rw [← halt_position]
    exact .faulted going hs.bracket read
      ((effect_eq_error_iff_stray hs.bracket).mpr ⟨side, hs, hg, rfl⟩)

/-- A step that faulted went from a state that was not over to one that is. -/
theorem eq_halt_of_step {p : Program} {s t : State} {u : Unmatched}
    (h : s.step p = .ok (t, .faulted u)) : s.done = false ∧ t = s.halt u := by
  cases step_eq_ok_iff.mp h with
  | faulted going fetch read effect => exact ⟨going, rfl⟩

/-! ### The log -/

/-- The log holds no fault. -/
def Clean (s : State) : Prop := ∀ u, Event.error u ∉ s.log

theorem clean_start (p : Program) (m : Machine) : (start p m).Clean := by
  intro u h
  simp [start] at h

theorem Clean.fault?_eq_none {s : State} (h : s.Clean) : s.fault? = none := by
  rw [fault?, List.findSome?_eq_none_iff]
  intro e he
  cases e with
  | value v => rfl
  | error u => exact absurd (by simpa using he) (h u)

/-- An effect enters values in the log, and no faults. -/
theorem Clean.perform {s : State} (h : s.Clean) (e : Effect) (length next : Nat) :
    ((s.perform e).proceed length next).Clean := by
  intro u hu
  cases e with
  | emitted v =>
      rcases Array.mem_push.mp hu with hu | hu
      · exact h u hu
      · cases hu
  | moved _ | changed _ _ _ | ignored | jumped _ | passed => exact h u hu

/-- **The history of a run**: its log is clean, or it ended with a fault and was clean before. -/
theorem clean_or_faulted {p : Program} {m : Machine} {n : Nat} {s : State}
    (h : (start p m).after p n = .ok s) :
    s.Clean ∨ ∃ k < n, ∃ t u, (start p m).after p k = .ok t ∧ t.Clean ∧
      t.step p = .ok (s, .faulted u) := by
  -- the induction is on the last step: only a step from a clean log can enter a fault
  induction n generalizing s with
  | zero =>
      cases h
      exact .inl (clean_start p m)
  | succ n ih =>
      obtain ⟨t, ht, _⟩ := exists_after_valid p m n
      rw [after_succ_last ht] at h
      obtain ⟨o, hs⟩ := next_eq_ok_iff.mp h
      rcases ih ht with hc | ⟨k, hk, r, u, hr, hrc, hf⟩
      · cases step_eq_ok_iff.mp hs with
        | frozen ended => exact .inl hc
        | @faulted x cell u going fetch read effect =>
            exact .inr ⟨n, Nat.lt_succ_self n, t, u, ht, hc, hs⟩
        | @applied x cell e going fetch read effect inside => exact .inl (hc.perform e _ _)
      · -- behind the fault nothing happens any more
        have hd : t.done = true := by
          rw [(eq_halt_of_step hf).2]
          rfl
        rw [step_of_done hd] at hs
        cases hs
        exact .inr ⟨k, Nat.lt_succ_of_lt hk, r, u, hr, hrc, hf⟩

theorem eq_size_of_getElem?_push {log : Array Event} {u v : Unmatched} {i : Nat}
    (hclean : ∀ w, Event.error w ∉ log) (h : (log.push (.error u))[i]? = some (.error v)) :
    i = log.size := by
  rw [Array.getElem?_push] at h
  split at h
  · assumption
  · exact absurd (Array.mem_of_getElem? h) (hclean v)

/-- **A fault is the last entry of the log.** -/
theorem succ_eq_size_of_fault {p : Program} {m : Machine} {n i : Nat} {s : State} {u : Unmatched}
    (h : (start p m).after p n = .ok s) (hi : s.log[i]? = some (.error u)) :
    i + 1 = s.log.size := by
  rcases clean_or_faulted h with hc | ⟨_, _, t, v, _, hc, hf⟩
  · exact absurd (Array.mem_of_getElem? hi) (hc u)
  · obtain ⟨_, rfl⟩ := eq_halt_of_step hf
    have := eq_size_of_getElem?_push hc hi
    simp only [halt, Array.size_push]
    omega

/-- **The fault that the log tells is how the run ended.** -/
theorem fault?_eq_some_iff {p : Program} {m : Machine} {n : Nat} {s : State} {u : Unmatched}
    (h : (start p m).after p n = .ok s) :
    s.fault? = some u ↔
      ∃ k < n, ∃ t, (start p m).after p k = .ok t ∧ t.step p = .ok (s, .faulted u) := by
  constructor
  · intro hu
    rcases clean_or_faulted h with hc | ⟨k, hk, t, v, ht, _, hf⟩
    · rw [hc.fault?_eq_none] at hu
      cases hu
    · have hv := fault?_halt t v
      rw [← (eq_halt_of_step hf).2, hu] at hv
      cases hv
      exact ⟨k, hk, t, ht, hf⟩
  · rintro ⟨k, _, t, _, hf⟩
    rw [(eq_halt_of_step hf).2]
    exact fault?_halt t u

/-- Without stray brackets the log stays clean. -/
theorem clean_of_balanced {p : Program} {m : Machine} {n : Nat} {s : State} (hb : p.Balanced)
    (h : (start p m).after p n = .ok s) : s.Clean := by
  rcases clean_or_faulted h with hc | ⟨_, _, t, u, ht, _, hf⟩
  · exact hc
  · obtain ⟨_, ⟨side, hs, _⟩, _⟩ := (step_eq_faulted_iff (valid_of_after ht)).mp hf
    exact absurd hs (hb.not_stray _ side)

/-- **Faults are exact, terminal and otherwise harmless**, in every state that a run reaches.  In a
balanced program no step faults and no fault is in the log.  A step faults exactly when the run is
not over and stands on a bracket without a partner whose guard holds; then the fault names that
bracket, it is entered in the log, the run is over, and nothing else has changed.  A fault in the
log is its last entry, and the log tells a fault exactly when the run ended with it.  A bracket
without a partner whose guard was never taken might as well not have been there. -/
theorem faults_are_exact (p : Program) (m : Machine) (n : Nat) :
    ∃ s, (start p m).after p n = .ok s ∧ (∃ t o, s.step p = .ok (t, o)) ∧
      (p.Balanced → (∀ t u, s.step p ≠ .ok (t, .faulted u)) ∧ ∀ u, Event.error u ∉ s.log) ∧
      (∀ t u, s.step p = .ok (t, .faulted u) ↔
        s.done = false ∧
        (∃ side, p.get? s.position = some side.instruction ∧ side.guard s.cell = true ∧
          ¬p.HasPartner s.position side ∧ u = ⟨s.position, side⟩) ∧
        t = { s with log := s.log.push (.error u), done := true }) ∧
      (∀ i u, s.log[i]? = some (.error u) → i + 1 = s.log.size) ∧
      (∀ u, s.fault? = some u ↔
        ∃ k < n, ∃ t, (start p m).after p k = .ok t ∧ t.step p = .ok (s, .faulted u)) ∧
      ∀ i side, p.get? i = some side.instruction → ¬p.HasPartner i side →
        (∀ k < n, ∀ t, (start p m).after p k = .ok t → t.done = false → t.position = i →
          side.guard t.cell = false) →
        (start (p.silence i) m).after (p.silence i) n = .ok s := by
  obtain ⟨s, hs, hv⟩ := exists_after_valid p m n
  have hfault : ∀ t u, s.step p = .ok (t, .faulted u) ↔
      s.done = false ∧
      (∃ side, p.get? s.position = some side.instruction ∧ side.guard s.cell = true ∧
        ¬p.HasPartner s.position side ∧ u = ⟨s.position, side⟩) ∧
      t = { s with log := s.log.push (.error u), done := true } := by
    intro t u
    rw [step_eq_faulted_iff hv]
    refine and_congr_right fun _ => and_congr_left fun _ => exists_congr fun side => ?_
    constructor
    · rintro ⟨hstray, hg, hu⟩
      exact ⟨hstray.bracket, hg, hstray.alone, hu⟩
    · rintro ⟨hb, hg, ha, hu⟩
      exact ⟨⟨hb, ha⟩, hg, hu⟩
  refine ⟨s, hs, hv.exists_step, fun hb => ⟨fun t u hf => ?_, clean_of_balanced hb hs⟩, hfault,
    fun i u => succ_eq_size_of_fault hs, fun u => fault?_eq_some_iff hs,
    fun i side hx ha hpass => ?_⟩
  · obtain ⟨_, ⟨side, hstray, _⟩, _⟩ := (step_eq_faulted_iff hv).mp hf
    exact hb.not_stray _ side hstray
  · have hstray : p.Stray i side := ⟨hx, ha⟩
    rw [hstray.after_silence m n hpass, hs]

end State

end TapeMachine
