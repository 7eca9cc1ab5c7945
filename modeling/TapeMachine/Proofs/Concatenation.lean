/-
**One program after another.**

Two programs can be written one after the other, and brackets are the only instructions that could
notice: a scan may run on into the other program.  A scan that ends in the first program is not
changed by what follows, and a scan from the second never ends in the first when that is balanced,
not even from a stray bracket.  So the first program runs as it does alone for as long as it does
not end, and when it comes to its end, the second runs as it does alone on the data it is left with,
with all positions moved on by the length of the first.

Main definitions:

* `TapeMachine.Program.append` — one program after another;
* `TapeMachine.State.shift`, `TapeMachine.Outcome.shift` — all positions moved on;
* `TapeMachine.State.startOn` — the state in which a program starts on given data;
* `TapeMachine.Outcome.endsRun` — the step halted the run or faulted.

Main results:

* `TapeMachine.Program.partner_append_left`, `TapeMachine.Program.partner_append_right` — **what a
  scan finds** in two programs;
* `TapeMachine.State.step_append_left`, `TapeMachine.State.step_append_end`,
  `TapeMachine.State.step_shift` — a step in the first program, the step at its end, and a step in
  the second;
* `TapeMachine.State.execution_is_local` — what that means for whole runs.
-/

import TapeMachine.Proofs.Fault

set_option relaxedAutoImplicit false
set_option autoImplicit false

namespace TapeMachine

namespace Program

/-! ### Two programs -/

/-- The instructions of one program, followed by those of another. -/
def append (p q : Program) : Program := ⟨p.instructions ++ q.instructions⟩

instance : Append Program := ⟨append⟩

variable {p q : Program} {a b i j k : Nat}

@[simp] theorem toList_append (p q : Program) : (p ++ q).toList = p.toList ++ q.toList :=
  Array.toList_append

@[simp] theorem length_append (p q : Program) : (p ++ q).length = p.length + q.length :=
  Array.size_append

theorem get?_append_left (h : i < p.length) : (p ++ q).get? i = p.get? i :=
  Array.getElem?_append_left h

theorem get?_append_right (p q : Program) (i : Nat) : (p ++ q).get? (p.length + i) = q.get? i := by
  rw [get?_eq_getElem?_toList, get?_eq_getElem?_toList, toList_append, ← length_toList,
    List.getElem?_append_right (Nat.le_add_right _ _), Nat.add_sub_cancel_left]

theorem isEmpty_append_left (h : 0 < p.length) : (p ++ q).isEmpty = p.isEmpty := by
  rw [Bool.eq_iff_iff, isEmpty_iff, isEmpty_iff, length_append]
  omega

theorem height_append_left (h : k ≤ p.length) : (p ++ q).height k = p.height k := by
  rw [← length_toList] at h
  simp only [height, toList_append, List.take_append_of_le_length h]

theorem height_append_right (p q : Program) (k : Nat) :
    (p ++ q).height (p.length + k) = p.height p.length + q.height k := by
  simp only [height, toList_append, ← length_toList, List.take_length_add_append, List.count_append,
    List.take_length]
  omega

/-! ### Well nested stretches of two programs -/

theorem Nested.append_left (h : p.Nested a b) (q : Program) : (p ++ q).Nested a b where
  le := h.le
  le_length := by
    have := h.le_length
    rw [length_append]
    omega
  level := by
    have := h.le
    have := h.le_length
    rw [height_append_left (by omega), height_append_left (by omega)]
    exact h.level
  above k h₁ h₂ := by
    have := h.le_length
    rw [height_append_left (by omega), height_append_left (by omega)]
    exact h.above k h₁ h₂

theorem nested_append_right_iff :
    (p ++ q).Nested (p.length + a) (p.length + b) ↔ q.Nested a b := by
  constructor
  · intro h
    have hlen := h.le_length
    have hlevel := h.level
    rw [length_append] at hlen
    rw [height_append_right, height_append_right] at hlevel
    refine ⟨Nat.le_of_add_le_add_left h.le, by omega, by omega, fun k h₁ h₂ => ?_⟩
    have := h.above (p.length + k) (by omega) (by omega)
    rw [height_append_right, height_append_right] at this
    omega
  · intro h
    have := h.le
    have := h.le_length
    refine ⟨by omega, by rw [length_append]; omega, ?_, fun k h₁ h₂ => ?_⟩
    · rw [height_append_right, height_append_right, h.level]
    · obtain ⟨l, rfl⟩ := Nat.exists_eq_add_of_le (by omega : p.length ≤ k)
      have := h.above l (by omega) (by omega)
      rw [height_append_right, height_append_right]
      omega

theorem Balanced.le_of_nested (hb : p.Balanced) (ho : (p ++ q).get? j = some .opening)
    (h : (p ++ q).Nested (j + 1) (p.length + i)) : p.length ≤ j := by
  by_contra hj
  have hj : j < p.length := Nat.lt_of_not_le hj
  -- behind the opening the program is above the ground, and it has to stay there
  have hground := hb.above j (Nat.zero_le j) (Nat.le_of_lt hj)
  have hend := h.above p.length hj (Nat.le_add_right _ _)
  rw [get?_append_left hj] at ho
  rw [height_append_left hj, height_append_left (Nat.le_refl _), hb.level,
    height_succ_of_opening ho] at hend
  omega

/-! ### What a scan finds -/

/-- **A scan that ends in the first program** is not changed by what follows. -/
theorem partner_append_left {d : Direction} (h : p.partner i d = .ok j) :
    (p ++ q).partner i d = .ok j := by
  have hj := lt_length_of_partner h
  cases d with
  | forward =>
      obtain ⟨hc, hn⟩ := partner_forward_eq_ok_iff.mp h
      exact partner_forward_eq_ok_iff.mpr ⟨(get?_append_left hj).trans hc, hn.append_left q⟩
  | backward =>
      obtain ⟨ho, hn⟩ := partner_backward_eq_ok_iff.mp h
      exact partner_backward_eq_ok_iff.mpr ⟨(get?_append_left hj).trans ho, hn.append_left q⟩

/-- **A scan from the second program** finds what it finds there alone, when the first program is
balanced. -/
theorem partner_append_right (hb : p.Balanced) {d : Direction} :
    (p ++ q).partner (p.length + i) d = .ok k ↔
      ∃ j, k = p.length + j ∧ q.partner i d = .ok j := by
  cases d with
  | forward =>
      simp only [partner_forward_eq_ok_iff]
      constructor
      · rintro ⟨hc, hn⟩
        have hk := hn.le
        obtain ⟨j, rfl⟩ := Nat.exists_eq_add_of_le (by omega : p.length ≤ k)
        exact ⟨j, rfl, (get?_append_right p q j).symm.trans hc, nested_append_right_iff.mp hn⟩
      · rintro ⟨j, rfl, hc, hn⟩
        exact ⟨(get?_append_right p q j).trans hc, nested_append_right_iff.mpr hn⟩
  | backward =>
      simp only [partner_backward_eq_ok_iff]
      constructor
      · rintro ⟨ho, hn⟩
        obtain ⟨j, rfl⟩ := Nat.exists_eq_add_of_le (hb.le_of_nested ho hn)
        exact ⟨j, rfl, (get?_append_right p q j).symm.trans ho, nested_append_right_iff.mp hn⟩
      · rintro ⟨j, rfl, ho, hn⟩
        exact ⟨(get?_append_right p q j).trans ho, nested_append_right_iff.mpr hn⟩

end Program

/-! ### Positions moved on -/

def Unmatched.shift (k : Nat) (u : Unmatched) : Unmatched := { u with position := k + u.position }

/-- An entry of the log, with the position of a fault moved on. -/
def Event.shift (k : Nat) : Event → Event
  | .value v => .value v
  | .error u => .error (u.shift k)

def Effect.shift (k : Nat) : Effect → Effect
  | .jumped partner => .jumped (k + partner)
  | e => e

/-- An outcome with all positions moved on. -/
def Outcome.shift (k : Nat) : Outcome → Outcome
  | .frozen => .frozen
  | .applied position x e halted => .applied (k + position) x (e.shift k) halted
  | .faulted u => .faulted (u.shift k)

/-- The step halted the run, or faulted. -/
def Outcome.endsRun : Outcome → Bool
  | .frozen => false
  | .applied _ _ _ halted => halted
  | .faulted _ => true

theorem Effect.next_shift (k i : Nat) (e : Effect) : (e.shift k).next (k + i) = k + e.next i := by
  cases e <;> rfl

namespace State

/-- The state with all positions moved on. -/
def shift (k : Nat) (s : State) : State :=
  { s with position := k + s.position, log := s.log.map (Event.shift k) }

/-- The state in which a program starts on the data of another state. -/
def startOn (q : Program) (s : State) : State := { s with position := 0, done := q.isEmpty }

theorem perform_shift (k : Nat) (s : State) (e : Effect) :
    (s.shift k).perform (e.shift k) = (s.perform e).shift k := by
  cases e with
  | emitted v => simp only [perform, shift, Effect.shift, Array.map_push, Event.shift]
  | moved _ | changed _ _ _ | ignored | jumped _ | passed => rfl

theorem halt_shift (k : Nat) (s : State) (u : Unmatched) :
    (s.shift k).halt (u.shift k) = (s.halt u).shift k := by
  simp only [halt, shift, Array.map_push, Event.shift, Unmatched.shift]

theorem proceed_shift (k : Nat) (s : State) {n next : Nat} (hn : 0 < n) :
    (s.shift k).proceed (k + n) (k + next) = (s.proceed n next).shift k := by
  have hend : k + next = k + n ↔ next = n := Nat.add_left_cancel_iff
  simp only [proceed, shift, hend]
  split
  · next h => rw [Nat.add_sub_assoc hn]
  · next h => rfl

theorem Clean.map_shift {s : State} (h : s.Clean) (k : Nat) :
    s.log.map (Event.shift k) = s.log := by
  rw [Array.map_congr_left (g := id), Array.map_id]
  intro e he
  cases e with
  | value v => rfl
  | error u => exact absurd he (h u)

/-! ### A step in the first program -/

variable {p q : Program} {m : Machine} {s t : State} {o : Outcome}

theorem done_of_step (going : s.done = false) (h : s.step p = .ok (t, o)) : t.done = o.endsRun := by
  cases step_eq_ok_iff.mp h with
  | frozen ended => exact going
  | faulted going fetch read effect => rfl
  | applied going fetch read effect inside => rfl

theorem proceed_congr {l n next : Nat} (hl : next ≠ l) (hn : next ≠ n) :
    s.proceed l next = s.proceed n next := by
  simp only [proceed, hl, hn, if_false]

theorem effect_append_left {cell : UInt8} {x : Instruction} {e : Effect}
    (h : s.effect p cell x = .ok e) : s.effect (p ++ q) cell x = .ok e := by
  have hbranch : ∀ side : Side,
      s.branch p side cell = .ok e → s.branch (p ++ q) side cell = .ok e := by
    intro side hb
    refine branch_eq_ok_iff.mpr ((branch_eq_ok_iff.mp hb).imp id fun ⟨hg, j, hj, he⟩ => ?_)
    exact ⟨hg, j, Program.partner_append_left hj, he⟩
  cases x with
  | opening => exact hbranch .opening h
  | closing => exact hbranch .closing h
  | right | left | increment | decrement | output | input => exact h

/-- An instruction of the first program is carried out as it is there; only the length differs. -/
theorem step_append_of_applied (q : Program) {cell : UInt8} {x : Instruction} {e : Effect}
    (going : s.done = false) (fetch : p.get? s.position = some x) (read : s.cell? = some cell)
    (effect : s.effect p cell x = .ok e) (inside : e.next s.position ≤ p.length) :
    s.step (p ++ q) =
      .ok ((s.perform e).proceed (p ++ q).length (e.next s.position),
        .applied s.position x e (decide (e.next s.position = (p ++ q).length))) := by
  have hfetch := (Program.get?_append_left (q := q) (Program.lt_length_of_get? fetch)).trans fetch
  have hinside : e.next s.position ≤ (p ++ q).length := by
    rw [Program.length_append]
    exact Nat.le_trans inside (Nat.le_add_right _ _)
  exact step_eq_ok_iff.mpr (.applied going hfetch read (effect_append_left effect) hinside)

/-- **A step that does not end the run** is not changed by what follows the program. -/
theorem step_append_left (h : s.step p = .ok (t, o)) (ho : o.endsRun = false) :
    s.step (p ++ q) = .ok (t, o) := by
  cases step_eq_ok_iff.mp h with
  | frozen ended => exact step_of_done ended
  | faulted going fetch read effect => cases ho
  | @applied x cell e going fetch read effect inside =>
      have hnext : e.next s.position ≠ p.length := of_decide_eq_false ho
      have hne : e.next s.position ≠ (p ++ q).length := by
        rw [Program.length_append]
        omega
      rw [step_append_of_applied q going fetch read effect inside, proceed_congr hne hnext]
      simp only [hne, hnext]

/-- **The step that halts the run** of a program leads into the program that follows. -/
theorem step_append_end {i : Nat} {x : Instruction} {e : Effect} (hq : 0 < q.length)
    (h : s.step p = .ok (t, .applied i x e true)) :
    s.step (p ++ q) =
      .ok ({ t with position := p.length, done := false }, .applied i x e false) := by
  generalize ho : Outcome.applied i x e true = o at h
  cases step_eq_ok_iff.mp h with
  | frozen ended => cases ho
  | faulted going fetch read effect => cases ho
  | @applied x cell e going fetch read effect inside =>
      injection ho with hi hx he hend
      subst hi hx he
      have hnext : e.next s.position = p.length := of_decide_eq_true hend.symm
      have hne : p.length ≠ (p ++ q).length := by
        rw [Program.length_append]
        omega
      rw [step_append_of_applied q going fetch read effect inside]
      simp only [proceed, hnext, hne, if_false, decide_false]

/-! ### A step in the second program -/

theorem branch_shift_ok (hb : p.Balanced) {side : Side} {cell : UInt8} {e : Effect}
    (h : s.branch q side cell = .ok e) :
    (s.shift p.length).branch (p ++ q) side cell = .ok (e.shift p.length) := by
  rcases branch_eq_ok_iff.mp h with ⟨hg, rfl⟩ | ⟨hg, j, hj, rfl⟩
  · exact branch_eq_ok_iff.mpr (.inl ⟨hg, rfl⟩)
  · exact branch_eq_ok_iff.mpr
      (.inr ⟨hg, _, (Program.partner_append_right hb).mpr ⟨j, rfl, hj⟩, rfl⟩)

theorem effect_shift_ok (hb : p.Balanced) {cell : UInt8} {x : Instruction} {e : Effect}
    (h : s.effect q cell x = .ok e) :
    (s.shift p.length).effect (p ++ q) cell x = .ok (e.shift p.length) := by
  cases x with
  | opening => exact branch_shift_ok hb h
  | closing => exact branch_shift_ok hb h
  | right | left | increment | decrement | output | input =>
      cases h
      rfl

theorem effect_shift_error (hb : p.Balanced) {cell : UInt8} {x : Instruction} {u : Unmatched}
    (h : s.effect q cell x = .error u) :
    (s.shift p.length).effect (p ++ q) cell x = .error (u.shift p.length) := by
  obtain ⟨side, rfl, hg, hp⟩ := effect_eq_error_iff.mp h
  obtain ⟨rfl, hn⟩ := Program.partner_eq_error_iff.mp hp
  refine effect_eq_error_iff.mpr ⟨side, rfl, hg, Program.partner_eq_error_iff.mpr ⟨rfl, ?_⟩⟩
  intro k hk
  obtain ⟨j, _, hj⟩ := (Program.partner_append_right hb).mp hk
  exact hn j hj

/-- **A step of the second program** is the same behind a balanced program, with all positions moved
on. -/
theorem step_shift (hb : p.Balanced) (h : s.step q = .ok (t, o)) :
    (s.shift p.length).step (p ++ q) = .ok (t.shift p.length, o.shift p.length) := by
  cases step_eq_ok_iff.mp h with
  | frozen ended => exact step_of_done ended
  | @faulted x cell u going fetch read effect =>
      have hfetch := (Program.get?_append_right p q s.position).trans fetch
      have hfaulted := Transition.faulted (s := s.shift p.length) going hfetch read
        (effect_shift_error hb effect)
      rw [halt_shift] at hfaulted
      exact step_eq_ok_iff.mpr hfaulted
  | @applied x cell e going fetch read effect inside =>
      have hfetch := (Program.get?_append_right p q s.position).trans fetch
      have hpos := Program.lt_length_of_get? fetch
      have hnext := Effect.next_shift p.length s.position e
      have hinside : (e.shift p.length).next (p.length + s.position) ≤ (p ++ q).length := by
        rw [hnext, Program.length_append]
        exact Nat.add_le_add_left inside _
      have happlied := Transition.applied (s := s.shift p.length) going hfetch read
        (effect_shift_ok hb effect) hinside
      have hend : p.length + e.next s.position = p.length + q.length ↔
          e.next s.position = q.length := Nat.add_left_cancel_iff
      have hposition : (s.shift p.length).position = p.length + s.position := rfl
      rw [perform_shift, hposition, hnext, Program.length_append,
        proceed_shift _ _ (by omega : 0 < q.length)] at happlied
      simp only [hend] at happlied
      exact step_eq_ok_iff.mpr happlied

/-! ### Runs -/

theorem start_append_left (h : 0 < p.length) : start (p ++ q) m = start p m := by
  simp only [start, Program.isEmpty_append_left h]

/-- A run of the first program that has not come to its end is not changed by what follows. -/
theorem after_append_left {n : Nat} (hv : s.Valid p m)
    (h : ∀ k < n, ∀ r u o, s.after p k = .ok r → r.step p = .ok (u, o) → o.endsRun = false) :
    s.after (p ++ q) n = s.after p n := by
  induction n with
  | zero => rfl
  | succ n ih =>
      have hlast := ih fun k hk => h k (Nat.lt_succ_of_lt hk)
      obtain ⟨r, hr, hrv⟩ := hv.exists_after n
      obtain ⟨u, o, hstep⟩ := hrv.exists_step
      have hgoes := h n (Nat.lt_succ_self n) r u o hr hstep
      rw [hr] at hlast
      rw [after_succ_last hlast, after_succ_last hr, next_eq_ok_iff.mpr ⟨o, hstep⟩]
      exact next_eq_ok_iff.mpr ⟨o, step_append_left hstep hgoes⟩

/-- A run of the second program is the same behind a balanced program, with all positions moved
on. -/
theorem after_shift (hb : p.Balanced) (hv : s.Valid q m) (n : Nat) :
    ∃ t, s.after q n = .ok t ∧ t.Valid q m ∧
      (s.shift p.length).after (p ++ q) n = .ok (t.shift p.length) := by
  induction n with
  | zero => exact ⟨s, rfl, hv, rfl⟩
  | succ n ih =>
      obtain ⟨r, hr, hrv, hshift⟩ := ih
      obtain ⟨t, o, hstep⟩ := hrv.exists_step
      refine ⟨t, ?_, hrv.step hstep, ?_⟩
      · rw [after_succ_last hr]
        exact next_eq_ok_iff.mpr ⟨o, hstep⟩
      · rw [after_succ_last hshift]
        exact next_eq_ok_iff.mpr ⟨_, step_shift hb hstep⟩

theorem endsRun_eq_false_of_going {n k : Nat} {r u : State}
    (hgoing : ∀ k < n, ∀ r, (start p m).after p k = .ok r → r.done = false) (hk : k + 1 < n)
    (hr : (start p m).after p k = .ok r) (h : r.step p = .ok (u, o)) : o.endsRun = false := by
  have hu : (start p m).after p (k + 1) = .ok u := by
    rw [after_succ_last hr]
    exact next_eq_ok_iff.mpr ⟨o, h⟩
  rw [← done_of_step (hgoing k (by omega) r hr) h]
  exact hgoing (k + 1) hk u hu

/-- **At the end of a balanced program** the program that follows takes over its data. -/
theorem after_append_end {n : Nat} (hb : p.Balanced) (hq : 0 < q.length)
    (h : (start p m).after p n = .ok s) (ended : s.done = true)
    (hgoing : ∀ k < n, ∀ r, (start p m).after p k = .ok r → r.done = false) :
    (start (p ++ q) m).after (p ++ q) n =
      .ok { s with position := p.length, done := false } := by
  cases n with
  | zero =>
      -- the program is empty, and nothing was done
      cases h
      have hp : p.length = 0 := p.isEmpty_iff.mp ended
      have hne : (p ++ q).isEmpty = false := by
        rw [Bool.eq_false_iff, ne_eq, Program.isEmpty_iff, Program.length_append]
        omega
      simp only [after, start, hne, hp]
  | succ n =>
      obtain ⟨r, hr, hrv⟩ := exists_after_valid p m n
      obtain ⟨t, o, hstep⟩ := hrv.exists_step
      have hgoes := hgoing n (Nat.lt_succ_self n) r hr
      rw [after_succ_last hr, next_eq_ok_iff.mpr ⟨o, hstep⟩] at h
      cases h
      have hprefix : (start (p ++ q) m).after (p ++ q) n = .ok r := by
        have hp := Nat.zero_lt_of_lt (hrv.position_lt hgoes)
        rw [start_append_left hp, after_append_left (valid_start p m), hr]
        intro k hk r' u o' hr' hstep'
        exact endsRun_eq_false_of_going hgoing (Nat.succ_lt_succ hk) hr' hstep'
      rw [after_succ_last hprefix]
      have hends := done_of_step hgoes hstep
      rw [ended] at hends
      cases o with
      | frozen => cases hends
      | faulted u =>
          obtain ⟨_, ⟨side, hstray, _⟩, _⟩ := (step_eq_faulted_iff hrv).mp hstep
          exact absurd hstray (hb.not_stray _ side)
      | applied i x e halted =>
          obtain rfl : halted = true := hends.symm
          exact next_eq_ok_iff.mpr ⟨_, step_append_end hq hstep⟩

theorem Fits.startOn_valid (h : s.Fits m) (q : Program) : (s.startOn q).Valid q m where
  toFits :=
    ⟨h.capacity, h.modulus, h.cell_lt, h.pointer_lt, h.lowest_le, h.le_highest, h.highest_lt⟩
  position := by
    rcases Nat.eq_zero_or_pos q.length with hq | hq
    · exact .inr ⟨hq, rfl, q.isEmpty_iff.mpr hq⟩
    · exact .inl hq
  at_end hd _ hq := by
    have := q.isEmpty_iff.mp hd
    omega

/-- **Execution is local, and composes.**  As long as no step of a program ends its run, the program
goes through the same states, with the same outcomes, when another program follows it, be they well
formed or not.  When the run of a balanced program is over for the first time, the program that
follows it is at its beginning with the same data, and from there on does, step for step, what it
does alone on these data, with all positions moved on by the length of the first. -/
theorem execution_is_local (p q : Program) (m : Machine) (n : Nat) :
    (0 < p.length →
      (∀ k < n, ∀ s t o, (start p m).after p k = .ok s → s.step p = .ok (t, o) →
        o.endsRun = false) →
      ∀ k ≤ n, ∃ s, (start p m).after p k = .ok s ∧ (start (p ++ q) m).after (p ++ q) k = .ok s ∧
        (k < n → ∃ t o, s.step p = .ok (t, o) ∧ s.step (p ++ q) = .ok (t, o))) ∧
    (p.Balanced → 0 < q.length →
      ∀ s, (start p m).after p n = .ok s → s.done = true →
        (∀ k < n, ∀ r, (start p m).after p k = .ok r → r.done = false) →
        (start (p ++ q) m).after (p ++ q) n =
          .ok { s with position := p.length, done := false } ∧
        ∀ k, ∃ t u o, (s.startOn q).after q k = .ok t ∧ t.step q = .ok (u, o) ∧
          (start (p ++ q) m).after (p ++ q) (n + k) = .ok (t.shift p.length) ∧
          (t.shift p.length).step (p ++ q) = .ok (u.shift p.length, o.shift p.length)) := by
  constructor
  · intro hp h k hk
    obtain ⟨s, hs, hv⟩ := exists_after_valid p m k
    refine ⟨s, hs, ?_, fun hkn => ?_⟩
    · rw [start_append_left hp, after_append_left (valid_start p m), hs]
      exact fun j hj => h j (Nat.lt_of_lt_of_le hj hk)
    · obtain ⟨t, o, hstep⟩ := hv.exists_step
      exact ⟨t, o, hstep, step_append_left hstep (h k hkn s t o hs hstep)⟩
  · intro hb hq s hs ended hgoing
    have hseam := after_append_end hb hq hs ended hgoing
    refine ⟨hseam, fun k => ?_⟩
    -- the log has no faults in it, so the seam is the start of the second program, moved on
    have hshift : (s.startOn q).shift p.length =
        { s with position := p.length, done := false } := by
      have hne : q.isEmpty = false := by
        rw [Bool.eq_false_iff, ne_eq, Program.isEmpty_iff]
        omega
      simp only [shift, startOn, (clean_of_balanced hb hs).map_shift, hne, Nat.add_zero]
    obtain ⟨t, ht, htv, hrun⟩ :=
      after_shift hb ((valid_of_after hs).toFits.startOn_valid q) k
    obtain ⟨u, o, hstep⟩ := htv.exists_step
    rw [hshift] at hrun
    exact ⟨t, u, o, ht, hstep, (after_add hseam k).trans hrun, step_shift hb hstep⟩

end State

end TapeMachine
