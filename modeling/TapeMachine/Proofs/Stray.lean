/-
**Stray brackets.**

A bracket without a partner is no obstacle to a run that never has to jump from it.  That is said
here in its strongest form: such a bracket might as well not be a bracket.  Putting an instruction
that does nothing in its place changes neither the partner of any other bracket nor, as long as its
guard is not taken, any state of the run.

What makes it true is where a stray bracket can stand: behind a stray opening the program never
comes down to the height it had there, and before a stray closing it was never lower.  So no loop
lies around a stray bracket, and the heights of both programs differ by a constant on each side.

Main definitions:

* `TapeMachine.Program.HasPartner`, `TapeMachine.Program.Stray` — a bracket has its mate, or none;
* `TapeMachine.Program.silence` — the program with one instruction that does nothing instead.

Main results:

* `TapeMachine.Program.partner_eq_error_iff_stray` — a scan fails exactly at stray brackets;
* `TapeMachine.Program.Stray.mates_silence_iff` — silencing a stray bracket keeps all mates;
* `TapeMachine.Program.Stray.after_silence` — **a stray bracket whose guard is never taken has no
  effect** on a run.
-/

import TapeMachine.Proofs.JumpTable
import TapeMachine.Proofs.Validity

set_option relaxedAutoImplicit false
set_option autoImplicit false

namespace TapeMachine

namespace Program

/-! ### Brackets with and without a partner -/

/-- The bracket of the given side at position `i` has its mate. -/
def HasPartner (p : Program) (i : Nat) : Side → Prop
  | .opening => ∃ j, p.Mates i j
  | .closing => ∃ j, p.Mates j i

/-- At position `i` stands a bracket that has no mate. -/
structure Stray (p : Program) (i : Nat) (side : Side) : Prop where
  /-- There is a bracket of this side. -/
  bracket : p.get? i = some side.instruction
  /-- It has no mate. -/
  alone : ¬p.HasPartner i side

/-- The scan from a bracket finds something exactly when the bracket has a partner. -/
theorem hasPartner_iff {p : Program} {i : Nat} {side : Side}
    (h : p.get? i = some side.instruction) :
    p.HasPartner i side ↔ ∃ j, p.partner i side.direction = .ok j := by
  cases side with
  | opening => exact exists_congr fun j => (partner_forward_iff_mates h).symm
  | closing => exact exists_congr fun j => (partner_backward_iff_mates h).symm

/-- **A scan from a bracket fails when the bracket is stray**, and reports that bracket. -/
theorem partner_eq_error_iff_stray {p : Program} {i : Nat} {side : Side} {u : Unmatched}
    (h : p.get? i = some side.instruction) :
    p.partner i side.direction = .error u ↔ u = ⟨i, side⟩ ∧ p.Stray i side := by
  rw [partner_eq_error_iff, side_direction]
  refine and_congr_right fun _ => ⟨fun hn => ⟨h, fun hp => ?_⟩, fun hs j hj => ?_⟩
  · obtain ⟨j, hj⟩ := (hasPartner_iff h).mp hp
    exact hn j hj
  · exact hs.alone ((hasPartner_iff h).mpr ⟨j, hj⟩)

/-- In a balanced program no bracket is stray. -/
theorem Balanced.not_stray {p : Program} (h : p.Balanced) (i : Nat) (side : Side) :
    ¬p.Stray i side := fun hs =>
  hs.alone ((hasPartner_iff hs.bracket).mpr (balanced_iff_partners.mpr h i side hs.bracket))

/-! ### Where a stray bracket stands -/

namespace Stray

variable {p : Program} {i : Nat} {side : Side}

/-- Behind a stray opening bracket the program stays above the height it had there. -/
theorem height_lt (h : p.Stray i .opening) {k : Nat} (hik : i < k) (hk : k ≤ p.length) :
    p.height i < p.height k := by
  by_contra hlow
  obtain ⟨j, -, hm⟩ := exists_mates_of_opening h.bracket hik hk (Int.not_lt.mp hlow)
  exact h.alone ⟨j, hm⟩

/-- Before a stray closing bracket the program was nowhere lower. -/
theorem height_le (h : p.Stray i .closing) {k : Nat} (hk : k ≤ i) :
    p.height i ≤ p.height k := by
  by_contra hlow
  have hnext := height_succ_of_closing h.bracket
  obtain ⟨l, -, hm⟩ := exists_mates_of_closing h.bracket hk (by omega)
  exact h.alone ⟨l, hm⟩

end Stray

/-! ### Silencing -/

/-- The program with an instruction at position `i` that does nothing. -/
def silence (p : Program) (i : Nat) : Program := ⟨p.instructions.setIfInBounds i .input⟩

@[simp] theorem length_silence (p : Program) (i : Nat) : (p.silence i).length = p.length := by
  simp [silence, length]

theorem get?_silence_of_ne (p : Program) {i k : Nat} (h : k ≠ i) :
    (p.silence i).get? k = p.get? k := by
  simp [silence, get?, Array.getElem?_setIfInBounds_ne (Ne.symm h)]

theorem get?_silence_self (p : Program) {i : Nat} (h : i < p.length) :
    (p.silence i).get? i = some .input := by
  have h : i < p.instructions.size := h
  simp [silence, get?, h]

/-- The height changes alike where two programs have the same instruction. -/
theorem height_succ_congr {p q : Program} {k : Nat} (h : q.get? k = p.get? k)
    (hk : k < p.length) : q.height (k + 1) - q.height k = p.height (k + 1) - p.height k := by
  obtain ⟨x, hx⟩ := get?_eq_some_of_lt hk
  rw [hx] at h
  by_cases ho : x = .opening
  · subst ho
    rw [height_succ_of_opening h, height_succ_of_opening hx]
    omega
  · by_cases hc : x = .closing
    · subst hc
      rw [height_succ_of_closing h, height_succ_of_closing hx]
      omega
    · rw [height_succ_of_ne h ho hc, height_succ_of_ne hx ho hc]
      omega

/-- Up to the silenced instruction the heights are what they were. -/
theorem height_silence_of_le (p : Program) {i k : Nat} (hki : k ≤ i) (hk : k ≤ p.length) :
    (p.silence i).height k = p.height k := by
  induction k with
  | zero => simp
  | succ k ih =>
      have hlast := ih (by omega) (by omega)
      have := height_succ_congr (p.get?_silence_of_ne (by omega : k ≠ i)) (by omega)
      omega

/-- Behind the silenced instruction all heights lack what it contributed. -/
theorem height_silence_of_lt (p : Program) {i k : Nat} (hik : i < k) (hk : k ≤ p.length) :
    (p.silence i).height k = p.height k - (p.height (i + 1) - p.height i) := by
  induction k with
  | zero => omega
  | succ k ih =>
      rcases Nat.lt_or_eq_of_le (Nat.le_of_lt_succ hik) with hik | rfl
      · have hlast := ih hik (by omega)
        have := height_succ_congr (p.get?_silence_of_ne (by omega : k ≠ i)) (by omega)
        omega
      · have hself := height_succ_of_ne (p.get?_silence_self (by omega : i < p.length))
          (by decide) (by decide)
        have := p.height_silence_of_le (Nat.le_refl i) (by omega)
        omega

/-- A stretch is well nested when another program of the same length lies, over this stretch, at a
constant distance, and is. -/
theorem Nested.of_height {p q : Program} {a b : Nat} (h : p.Nested a b)
    (hlen : q.length = p.length) (c : Int)
    (hc : ∀ k, a ≤ k → k ≤ b → q.height k = p.height k - c) : q.Nested a b where
  le := h.le
  le_length := by
    have := h.le_length
    omega
  level := by
    rw [hc a (Nat.le_refl a) h.le, hc b h.le (Nat.le_refl b), h.level]
  above k h₁ h₂ := by
    have := h.above k h₁ h₂
    rw [hc a (Nat.le_refl a) h.le, hc k h₁ h₂]
    omega

namespace Stray

variable {p : Program} {i : Nat} {side : Side}

theorem lt_length (h : p.Stray i side) : i < p.length := lt_length_of_get? h.bracket

/-- Where a program that was lower before a stray bracket comes to lie behind it. -/
theorem add_one_lt_height (h : p.Stray i side) {a b : Nat} (ha : a < i) (hib : i < b)
    (hb : b ≤ p.length) (hlow : p.height a < p.height i) : p.height a + 1 < p.height b := by
  cases side with
  | opening =>
      have := h.height_lt hib hb
      omega
  | closing =>
      have := h.height_le (Nat.le_of_lt ha)
      omega

/-- No loop lies around a stray bracket. -/
theorem not_between (h : p.Stray i side) {a b : Nat} (hm : p.Mates a b) : ¬(a < i ∧ i < b) := by
  rintro ⟨ha, hb⟩
  have hbody := hm.body.above i (by omega) (by omega)
  rw [height_succ_of_opening hm.opening] at hbody
  have hbehind := h.add_one_lt_height ha (by omega : i < b + 1) (lt_length_of_get? hm.closing)
    (by omega)
  rw [hm.height_succ] at hbehind
  omega

/-- No loop of the program without it lies around a stray bracket. -/
theorem not_between_silence (h : p.Stray i side) {a b : Nat} (hm : (p.silence i).Mates a b) :
    ¬(a < i ∧ i < b) := by
  rintro ⟨ha, hb⟩
  have hi := h.lt_length
  have hbl := lt_length_of_get? hm.closing
  rw [length_silence] at hbl
  -- before the bracket both programs have the same heights
  have hbody := hm.body.above i (by omega) (by omega)
  rw [height_succ_of_opening hm.opening, p.height_silence_of_le (Nat.le_of_lt ha) (by omega),
    p.height_silence_of_le (Nat.le_refl i) (by omega)] at hbody
  have hbehind := h.add_one_lt_height ha (by omega : i < b + 1) hbl (by omega)
  -- behind it they differ by one at most
  have hend := hm.height_succ
  rw [p.height_silence_of_le (Nat.le_of_lt ha) (by omega),
    p.height_silence_of_lt (by omega : i < b + 1) hbl] at hend
  rcases height_succ_cases hi with ⟨_, hstep⟩ | ⟨_, hstep⟩ | hstep <;> omega

/-- A stray bracket is at no end of a loop. -/
theorem ne_of_mates (h : p.Stray i side) {a b : Nat} (hm : p.Mates a b) : a ≠ i ∧ b ≠ i := by
  constructor
  · rintro rfl
    have hx := h.bracket
    rw [hm.opening] at hx
    cases side with
    | opening => exact h.alone ⟨b, hm⟩
    | closing => cases hx
  · rintro rfl
    have hx := h.bracket
    rw [hm.closing] at hx
    cases side with
    | opening => cases hx
    | closing => exact h.alone ⟨a, hm⟩

theorem ne_of_mates_silence (h : p.Stray i side) {a b : Nat} (hm : (p.silence i).Mates a b) :
    a ≠ i ∧ b ≠ i := by
  have hx := p.get?_silence_self h.lt_length
  constructor
  · rintro rfl
    rw [hm.opening] at hx
    cases hx
  · rintro rfl
    rw [hm.closing] at hx
    cases hx

/-- The distance between the heights of both programs, from `a` up to `b`. -/
theorem exists_distance {a b : Nat} (hb : b ≤ p.length) (hbi : b ≠ i) (hn : ¬(a < i ∧ i < b)) :
    ∃ c, ∀ k, a + 1 ≤ k → k ≤ b → (p.silence i).height k = p.height k - c := by
  rcases Nat.lt_or_ge b i with h | h
  · refine ⟨0, fun k _ hk => ?_⟩
    rw [p.height_silence_of_le (by omega) (by omega), Int.sub_zero]
  · exact ⟨_, fun k h₁ h₂ => p.height_silence_of_lt (by omega) (by omega)⟩

/-- **Silencing a stray bracket keeps all mates.** -/
theorem mates_silence_iff (h : p.Stray i side) {a b : Nat} :
    (p.silence i).Mates a b ↔ p.Mates a b := by
  constructor
  · intro hm
    obtain ⟨ha, hb⟩ := h.ne_of_mates_silence hm
    have hbl := lt_length_of_get? hm.closing
    rw [length_silence] at hbl
    obtain ⟨c, hc⟩ := exists_distance (Nat.le_of_lt hbl) hb (h.not_between_silence hm)
    refine ⟨p.get?_silence_of_ne ha ▸ hm.opening, p.get?_silence_of_ne hb ▸ hm.closing,
      hm.body.of_height (p.length_silence i).symm (-c) fun k h₁ h₂ => ?_⟩
    rw [hc k h₁ h₂]
    omega
  · intro hm
    obtain ⟨ha, hb⟩ := h.ne_of_mates hm
    have hbl := lt_length_of_get? hm.closing
    obtain ⟨c, hc⟩ := exists_distance (Nat.le_of_lt hbl) hb (h.not_between hm)
    exact ⟨(p.get?_silence_of_ne ha).trans hm.opening, (p.get?_silence_of_ne hb).trans hm.closing,
      hm.body.of_height (p.length_silence i) c hc⟩

/-- Silencing a stray bracket keeps the partners of all other brackets. -/
theorem partner_silence (h : p.Stray i side) {k : Nat} {s : Side} (hk : k ≠ i)
    (hx : p.get? k = some s.instruction) :
    (p.silence i).partner k s.direction = p.partner k s.direction := by
  have hx' : (p.silence i).get? k = some s.instruction := (p.get?_silence_of_ne hk).trans hx
  have hok : ∀ j,
      (p.silence i).partner k s.direction = .ok j ↔ p.partner k s.direction = .ok j := by
    intro j
    cases s with
    | opening =>
        exact (partner_forward_iff_mates hx').trans
          (h.mates_silence_iff.trans (partner_forward_iff_mates hx).symm)
    | closing =>
        exact (partner_backward_iff_mates hx').trans
          (h.mates_silence_iff.trans (partner_backward_iff_mates hx).symm)
  cases hp : p.partner k s.direction with
  | ok j => exact (hok j).mpr hp
  | error u =>
      -- a scan fails when no position is its end, so the iff above settles this case too
      obtain ⟨hu, hn⟩ := partner_eq_error_iff.mp hp
      exact partner_eq_error_iff.mpr ⟨hu, fun j hj => hn j ((hok j).mp hj)⟩

end Stray

end Program

/-! ### Runs of the silenced program -/

namespace Program.Stray

open State

variable {p : Program} {i : Nat} {side : Side} {s t : State}

/-- Silencing a stray bracket keeps what every other instruction does. -/
theorem effect_silence (h : p.Stray i side) (hi : s.position ≠ i) {x : Instruction}
    (hx : p.get? s.position = some x) (cell : UInt8) :
    s.effect (p.silence i) cell x = s.effect p cell x := by
  have hbranch : ∀ b : Side, x = b.instruction →
      s.branch (p.silence i) b cell = s.branch p b cell := by
    rintro b rfl
    unfold branch
    rw [h.partner_silence hi hx]
  cases x with
  | opening => exact hbranch .opening rfl
  | closing => exact hbranch .closing rfl
  | right | left | increment | decrement | output | input => rfl

/-- A step at another position is the same in both programs. -/
theorem step_silence_of_ne (h : p.Stray i side) {o : Outcome} (hs : s.step p = .ok (t, o))
    (hi : s.position ≠ i) : s.step (p.silence i) = .ok (t, o) := by
  have hfetch := p.get?_silence_of_ne hi
  cases step_eq_ok_iff.mp hs with
  | frozen ended => exact step_of_done ended
  | faulted going fetch read effect =>
      rw [← h.effect_silence hi fetch] at effect
      exact step_eq_ok_iff.mpr (.faulted going (hfetch.trans fetch) read effect)
  | applied going fetch read effect inside =>
      rw [← h.effect_silence hi fetch] at effect
      rw [← p.length_silence i] at inside ⊢
      exact step_eq_ok_iff.mpr (.applied going (hfetch.trans fetch) read effect inside)

/-- The stray bracket itself does nothing when its guard is not taken. -/
theorem next_silence_self (h : p.Stray i side) (hs : s.next p = .ok t) (hd : s.done = false)
    (hi : s.position = i) (hg : side.guard s.cell = false) : s.next (p.silence i) = .ok t := by
  obtain ⟨o, hs⟩ := next_eq_ok_iff.mp hs
  have hx : p.get? s.position = some side.instruction := hi ▸ h.bracket
  have hguard : ∀ {cell}, s.cell? = some cell → side.guard cell = false := by
    intro cell hc
    rwa [State.cell, hc] at hg
  cases step_eq_ok_iff.mp hs with
  | frozen ended =>
      rw [hd] at ended
      cases ended
  | faulted going fetch read effect =>
      rw [hx] at fetch
      cases fetch
      rw [effect_instruction] at effect
      have := (branch_eq_error_iff.mp effect).1
      rw [hguard read] at this
      cases this
  | applied going fetch read effect inside =>
      rw [hx] at fetch
      cases fetch
      rw [effect_instruction] at effect
      rcases branch_eq_ok_iff.mp effect with ⟨_, rfl⟩ | ⟨htaken, _⟩
      · -- the bracket passes, the instruction in its place is ignored
        have hfetch : (p.silence i).get? s.position = some .input :=
          hi ▸ p.get?_silence_self (hi ▸ h.lt_length)
        rw [← p.length_silence i] at inside ⊢
        exact next_eq_ok_iff.mpr
          ⟨_, step_eq_ok_iff.mpr (.applied (e := .ignored) going hfetch read rfl inside)⟩
      · rw [hguard read] at htaken
        cases htaken

theorem start_silence (p : Program) (i : Nat) (m : Machine) :
    State.start (p.silence i) m = State.start p m := by
  have : (p.silence i).isEmpty = p.isEmpty := by
    rw [Bool.eq_iff_iff, isEmpty_iff, isEmpty_iff, length_silence]
  simp only [State.start, this]

/-- **A stray bracket whose guard is never taken has no effect**: a run goes through the same states
when an instruction that does nothing stands in its place. -/
theorem after_silence (h : p.Stray i side) (m : Machine) (n : Nat)
    (hpass : ∀ k < n, ∀ s, (State.start p m).after p k = .ok s → s.done = false →
      s.position = i → side.guard s.cell = false) :
    (State.start (p.silence i) m).after (p.silence i) n = (State.start p m).after p n := by
  rw [start_silence]
  induction n with
  | zero => rfl
  | succ n ih =>
      have hlast := ih fun k hk => hpass k (by omega)
      obtain ⟨s, hs, hv⟩ := exists_after_valid p m n
      obtain ⟨t, o, ht⟩ := hv.exists_step
      rw [hs] at hlast
      rw [after_succ_last hlast, after_succ_last hs]
      have hnext := next_eq_ok_iff.mpr ⟨o, ht⟩
      rw [hnext]
      by_cases hi : s.position = i
      · cases hd : s.done with
        | true =>
            -- a run that is over stays as it is, in both programs
            rw [step_of_done hd] at ht
            cases ht
            exact next_eq_ok_iff.mpr ⟨_, step_of_done hd⟩
        | false => exact h.next_silence_self hnext hd hi (hpass n (by omega) s hs hd hi)
      · exact next_eq_ok_iff.mpr ⟨o, h.step_silence_of_ne ht hi⟩

end Program.Stray

end TapeMachine
