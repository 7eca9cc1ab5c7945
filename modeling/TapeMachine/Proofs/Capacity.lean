/-
**The size of the tape.**

A program notices the end of its tape in one way only: a movement to the right stops there.  So as
long as a run on a long tape has not gone beyond the cells of a short one, the run on the short tape
does the same.  The highest cell visited tells how far a run has gone, and it never goes down, so it
is enough to look at it after the last step.

What relates the two runs is that the short tape is the beginning of the long one: they hold the
same as far as the short one reaches, and behind it nothing was ever written.

Main definitions:

* `TapeMachine.Tape.Beginning` — one tape is the beginning of another, and the rest is blank;
* `TapeMachine.State.on` — the state on another tape;
* `TapeMachine.State.SameUpTo` — two states that differ in the length of their tapes only.

Main results:

* `TapeMachine.State.highest_le_of_step` — the highest cell visited never goes down;
* `TapeMachine.State.step_on` — **a step that stays on the short tape** is the same there;
* `TapeMachine.State.capacity_is_irrelevant_until_reached` — what that means for whole runs.
-/

import TapeMachine.Proofs.OutcomeLog

set_option relaxedAutoImplicit false
set_option autoImplicit false

namespace TapeMachine

namespace Tape

/-- The tape `t` is the beginning of `u`, and the rest of `u` is blank. -/
structure Beginning (t u : Tape) : Prop where
  le : t.capacity ≤ u.capacity
  modulus : t.modulus = u.modulus
  get?_eq : ∀ i < t.capacity, t.get? i = u.get? i
  blank : ∀ i, t.capacity ≤ i → i < u.capacity → u.get? i = some 0

theorem beginning_blank {m w : Machine} (hle : m.capacity ≤ w.capacity)
    (hmod : m.modulus = w.modulus) : (blank m).Beginning (blank w) where
  le := hle
  modulus := hmod
  get?_eq i hi := by
    have hi : i < m.capacity := hi
    rw [get?_blank, get?_blank, if_pos hi, if_pos (Nat.lt_of_lt_of_le hi hle)]
  blank i _ hi := by
    have hi : i < w.capacity := hi
    rw [get?_blank, if_pos hi]

namespace Beginning

variable {t u : Tape} {i : Nat}

theorem set (h : t.Beginning u) (hi : i < t.capacity) (v : UInt8) :
    (t.set i v).Beginning (u.set i v) where
  le := by
    rw [capacity_set, capacity_set]
    exact h.le
  modulus := by
    rw [modulus_set, modulus_set]
    exact h.modulus
  get?_eq j hj := by
    rw [capacity_set] at hj
    have hu := Nat.lt_of_lt_of_le hi h.le
    simp only [get?_set, hi, hu, and_true, h.get?_eq j hj]
  blank j hj hju := by
    rw [capacity_set] at hj hju
    have hne : ¬(i = j ∧ i < u.capacity) := by omega
    rw [get?_set, if_neg hne]
    exact h.blank j hj hju

theorem succ_eq (h : t.Beginning u) (v : UInt8) : t.succ v = u.succ v := by
  rw [succ, succ, h.modulus]

theorem pred_eq (h : t.Beginning u) (v : UInt8) : t.pred v = u.pred v := by
  rw [pred, pred, h.modulus]

end Beginning

end Tape

namespace State

/-- The state on another tape. -/
def on (w : State) (t : Tape) : State := { w with tape := t }

/-- The states differ in their tapes only; these hold the same up to the given cell, and from there
on the tape of the second is blank. -/
structure SameUpTo (c : Nat) (s w : State) : Prop where
  position : s.position = w.position
  pointer : s.pointer = w.pointer
  lowest : s.lowest = w.lowest
  highest : s.highest = w.highest
  log : s.log = w.log
  done : s.done = w.done
  below : ∀ i < c, s.tape.get? i = w.tape.get? i
  blank : ∀ i, c ≤ i → i < w.tape.capacity → w.tape.get? i = some 0

theorem sameUpTo_on {w : State} {t : Tape} (h : t.Beginning w.tape) :
    SameUpTo t.capacity (w.on t) w :=
  ⟨rfl, rfl, rfl, rfl, rfl, rfl, h.get?_eq, h.blank⟩

/-! ### The highest cell visited -/

variable {p : Program} {s t u : State} {o : Outcome}

/-- **The highest cell visited never goes down.** -/
theorem highest_le_of_step (h : s.step p = .ok (t, o)) : s.highest ≤ t.highest := by
  cases step_eq_ok_iff.mp h with
  | frozen ended => exact Nat.le_refl _
  | faulted going fetch read effect => exact Nat.le_refl _
  | @applied x cell e going fetch read effect inside =>
      have : (s.perform e).highest = s.highest := by
        cases e <;> rfl
      rw [← this]
      exact Nat.le_max_left _ _

theorem highest_le_of_after {n : Nat} (h : s.after p n = .ok t) : s.highest ≤ t.highest := by
  induction n generalizing s with
  | zero =>
      cases h
      exact Nat.le_refl _
  | succ n ih =>
      cases hn : s.next p with
      | error b =>
          simp only [after, hn] at h
          cases h
      | ok r =>
          rw [after_succ_of_next hn] at h
          obtain ⟨o, hstep⟩ := next_eq_ok_iff.mp hn
          exact Nat.le_trans (highest_le_of_step hstep) (ih h)

/-! ### One step on two tapes -/

theorem effect_on {w : State} {tape : Tape} (h : tape.Beginning w.tape) {cell : UInt8}
    {x : Instruction} {e : Effect} (he : w.effect p cell x = .ok e)
    (hmove : ∀ target, e = .moved target → target < tape.capacity) :
    (w.on tape).effect p cell x = .ok e := by
  cases x with
  | right =>
      -- the only place where the end of the tape is asked for
      cases he
      have := hmove _ rfl
      have := h.le
      have htarget : min (w.pointer + 1) (tape.capacity - 1) =
          min (w.pointer + 1) (w.tape.capacity - 1) := by
        omega
      exact congrArg (fun target => Except.ok (Effect.moved target)) htarget
  | increment =>
      cases he
      exact congrArg (fun v => Except.ok (Effect.changed w.pointer cell v)) (h.succ_eq cell)
  | decrement =>
      cases he
      exact congrArg (fun v => Except.ok (Effect.changed w.pointer cell v)) (h.pred_eq cell)
  | left | output | input | opening | closing => exact he

theorem exists_perform_on {w : State} {tape : Tape} (h : tape.Beginning w.tape) {e : Effect}
    (hcell : ∀ cell before after, e = .changed cell before after → cell < tape.capacity)
    (length next : Nat) :
    ∃ tape' : Tape, ((w.on tape).perform e).proceed length next =
        ((w.perform e).proceed length next).on tape' ∧
      tape'.Beginning ((w.perform e).proceed length next).tape ∧
      tape'.capacity = tape.capacity := by
  cases e with
  | changed cell before after =>
      exact ⟨tape.set cell after, rfl, h.set (hcell _ _ _ rfl) after, tape.capacity_set cell after⟩
  | moved _ | emitted _ | ignored | jumped _ | passed => exact ⟨tape, rfl, h, rfl⟩

/-- **A step that stays on the short tape** is the same there. -/
theorem step_on {m : Machine} {w w' : State} {tape : Tape} (h : tape.Beginning w.tape)
    (hw : w.Fits m) (hstep : w.step p = .ok (w', o)) (hhigh : w'.highest < tape.capacity) :
    ∃ tape' : Tape, (w.on tape).step p = .ok (w'.on tape', o) ∧ tape'.Beginning w'.tape ∧
      tape'.capacity = tape.capacity := by
  have hpointer : w.pointer < tape.capacity :=
    Nat.lt_of_le_of_lt (Nat.le_trans hw.le_highest (highest_le_of_step hstep)) hhigh
  have hread : (w.on tape).cell? = w.cell? := h.get?_eq w.pointer hpointer
  cases step_eq_ok_iff.mp hstep with
  | frozen ended => exact ⟨tape, step_of_done ended, h, rfl⟩
  | @faulted x cell u going fetch read effect =>
      have hside := effect_eq_error_iff.mp effect
      have heffect : (w.on tape).effect p cell x = .error u := effect_eq_error_iff.mpr hside
      exact ⟨tape, step_eq_ok_iff.mpr (.faulted going fetch (hread.trans read) heffect), h, rfl⟩
  | @applied x cell e going fetch read effect inside =>
      -- the pointer is in the marks after the step, so a movement stays on the short tape
      have hmove : ∀ target, e = .moved target → target < tape.capacity := by
        rintro target rfl
        exact Nat.lt_of_le_of_lt (Nat.le_max_right _ _) hhigh
      have hcell : ∀ cell before after,
          e = .changed cell before after → cell < tape.capacity := by
        rintro i before after rfl
        rw [(trueOf_of_effect read effect).1]
        exact hpointer
      obtain ⟨tape', hperform, hbeginning, hcapacity⟩ :=
        exists_perform_on h hcell p.length (e.next w.position)
      have happlied := Transition.applied (s := w.on tape) going fetch (hread.trans read)
        (effect_on h effect hmove) inside
      have hposition : (w.on tape).position = w.position := rfl
      rw [hposition, hperform] at happlied
      exact ⟨tape', step_eq_ok_iff.mpr happlied, hbeginning, hcapacity⟩

/-! ### Runs on two tapes -/

theorem exists_after_on {short long : Machine} (hle : short.capacity ≤ long.capacity)
    (hmod : short.modulus = long.modulus) {n : Nat} (h : (start p long).after p n = .ok t)
    (hhigh : t.highest < short.capacity) :
    ∃ tape : Tape, (start p short).after p n = .ok (t.on tape) ∧ tape.Beginning t.tape ∧
      tape.capacity = short.capacity := by
  induction n generalizing t with
  | zero =>
      cases h
      exact ⟨Tape.blank short, rfl, Tape.beginning_blank hle hmod, rfl⟩
  | succ n ih =>
      obtain ⟨r, hr, hrv⟩ := exists_after_valid p long n
      rw [after_succ_last hr] at h
      obtain ⟨o, hstep⟩ := next_eq_ok_iff.mp h
      obtain ⟨tape, hrun, hbeginning, hcapacity⟩ :=
        ih hr (Nat.lt_of_le_of_lt (highest_le_of_step hstep) hhigh)
      rw [← hcapacity] at hhigh
      obtain ⟨tape', hstep', hbeginning', hcapacity'⟩ :=
        step_on hbeginning hrv.toFits hstep hhigh
      refine ⟨tape', ?_, hbeginning', hcapacity'.trans hcapacity⟩
      rw [after_succ_last hrun]
      exact next_eq_ok_iff.mpr ⟨o, hstep'⟩

/-- **The size of the tape is irrelevant until it is reached.**  When a run on the longer of two
tapes has visited only cells of the shorter one, all its steps have the same outcomes on the shorter
tape, and lead to the same state; the tapes hold the same as far as the shorter one reaches, and the
rest of the longer one is blank. -/
theorem capacity_is_irrelevant_until_reached (p : Program) (short long : Machine)
    (hle : short.capacity ≤ long.capacity) (hmod : short.modulus = long.modulus) (n : Nat) :
    ∃ t, (start p long).after p n = .ok t ∧ (t.highest < short.capacity →
      (∀ k < n, ∃ r u r' u' o,
        (start p short).after p k = .ok r ∧ (start p long).after p k = .ok u ∧
          r.step p = .ok (r', o) ∧ u.step p = .ok (u', o)) ∧
      ∃ s, (start p short).after p n = .ok s ∧ s.SameUpTo short.capacity t) := by
  obtain ⟨t, h, -⟩ := exists_after_valid p long n
  refine ⟨t, h, fun hhigh => ⟨fun k hk => ?_, ?_⟩⟩
  · obtain ⟨u, hu, huv⟩ := exists_after_valid p long k
    obtain ⟨u', o, hstep⟩ := huv.exists_step
    -- what is left of the run behind this step tells that the step stayed on the short tape
    obtain ⟨d, rfl⟩ := Nat.exists_eq_add_of_le (Nat.succ_le_of_lt hk)
    have hu' : (start p long).after p (k + 1) = .ok u' := by
      rw [after_succ_last hu]
      exact next_eq_ok_iff.mpr ⟨o, hstep⟩
    rw [after_add hu'] at h
    have hhigh' := Nat.lt_of_le_of_lt (highest_le_of_after h) hhigh
    obtain ⟨tape, hrun, hbeginning, hcapacity⟩ := exists_after_on hle hmod hu
      (Nat.lt_of_le_of_lt (highest_le_of_step hstep) hhigh')
    rw [← hcapacity] at hhigh'
    obtain ⟨tape', hstep', _⟩ := step_on hbeginning huv.toFits hstep hhigh'
    exact ⟨_, u, _, u', o, hrun, hu, hstep', hstep⟩
  · obtain ⟨tape, hrun, hbeginning, hcapacity⟩ := exists_after_on hle hmod h hhigh
    rw [← hcapacity]
    exact ⟨_, hrun, sameUpTo_on hbeginning⟩

/-- Of three cells two are visited, and the last of these is counted up. -/
theorem capacity_two_of_three :
    let p := Program.ofList [.right, .increment, .right]
    let short : Machine := ⟨2, 128, by decide, by decide, by decide⟩
    let long : Machine := ⟨3, 128, by decide, by decide, by decide⟩
    short.capacity ≤ long.capacity ∧ short.modulus = long.modulus ∧
      ∃ t, (start p long).after p 2 = .ok t ∧ t.highest < short.capacity ∧
        ∃ s, (start p short).after p 2 = .ok s ∧ s.SameUpTo short.capacity t := by
  intro p short long
  have hhigh : 1 < short.capacity := by decide
  obtain ⟨t, h, hsame⟩ := capacity_is_irrelevant_until_reached p short long (by decide) rfl 2
  cases h
  exact ⟨by decide, rfl, _, rfl, hhigh, (hsame hhigh).2⟩

end State

end TapeMachine
