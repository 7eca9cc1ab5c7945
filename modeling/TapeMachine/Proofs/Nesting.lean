/-
**The nesting of brackets.**

The scan for a partner counts the loops it enters and leaves.  What it finds is said here without a
scan: the height of a position is the number of loops that are open there, a stretch of the program
is well nested when its ends have the same height and nothing between them lies lower, and two
brackets are mates when they enclose a well nested stretch.  Heights are integers, so that stray
brackets need no special treatment: behind a closing bracket too many the height is below zero.

Main definitions:

* `TapeMachine.Program.height` — openings minus closings before a position;
* `TapeMachine.Program.Nested` — a stretch in which every bracket has its partner;
* `TapeMachine.Program.Mates` — two brackets that enclose such a stretch;
* `TapeMachine.Program.Balanced` — the whole program is such a stretch.

Main results:

* `TapeMachine.Program.partner_forward_eq_ok_iff`,
  `TapeMachine.Program.partner_backward_eq_ok_iff` — **what a scan finds**, from any position: the
  bracket of the other side behind a well nested stretch;
* `TapeMachine.Program.partner_forward_iff_mates`,
  `TapeMachine.Program.partner_backward_iff_mates` — from a bracket a scan finds its mate.
-/

import TapeMachine.Bracket

set_option relaxedAutoImplicit false
set_option autoImplicit false

namespace TapeMachine

namespace Program

/-! ### Heights -/

/-- The number of loops open before position `n`: openings minus closings. -/
def height (p : Program) (n : Nat) : Int :=
  (p.toList.take n).count .opening - (p.toList.take n).count .closing

@[simp] theorem height_zero (p : Program) : p.height 0 = 0 := by
  simp [height]

theorem lt_length_of_get? {p : Program} {i : Nat} {x : Instruction} (h : p.get? i = some x) :
    i < p.length :=
  (Array.getElem?_eq_some_iff.mp h).1

theorem get?_eq_some_of_lt {p : Program} {i : Nat} (h : i < p.length) : ∃ x, p.get? i = some x :=
  ⟨_, Array.getElem?_eq_some_iff.mpr ⟨h, rfl⟩⟩

/-- One instruction more. -/
theorem take_succ_toList {p : Program} {i : Nat} {x : Instruction} (h : p.get? i = some x) :
    p.toList.take (i + 1) = p.toList.take i ++ [x] := by
  rw [get?_eq_getElem?_toList] at h
  rw [List.take_add_one, h]
  rfl

theorem height_succ_of_opening {p : Program} {i : Nat} (h : p.get? i = some .opening) :
    p.height (i + 1) = p.height i + 1 := by
  simp only [height, take_succ_toList h, List.count_append]
  simp only [List.count_singleton_self, List.count_singleton, beq_iff_eq, reduceCtorEq, if_false]
  omega

theorem height_succ_of_closing {p : Program} {i : Nat} (h : p.get? i = some .closing) :
    p.height (i + 1) = p.height i - 1 := by
  simp only [height, take_succ_toList h, List.count_append]
  simp only [List.count_singleton_self, List.count_singleton, beq_iff_eq, reduceCtorEq, if_false]
  omega

theorem height_succ_of_ne {p : Program} {i : Nat} {x : Instruction} (h : p.get? i = some x)
    (ho : x ≠ .opening) (hc : x ≠ .closing) : p.height (i + 1) = p.height i := by
  simp [height, take_succ_toList h, List.count_append, ho, hc]

/-- The height rises at an opening bracket, falls at a closing one, and stays elsewhere. -/
theorem height_succ_cases {p : Program} {i : Nat} (h : i < p.length) :
    (p.get? i = some .opening ∧ p.height (i + 1) = p.height i + 1) ∨
    (p.get? i = some .closing ∧ p.height (i + 1) = p.height i - 1) ∨
    p.height (i + 1) = p.height i := by
  obtain ⟨x, hx⟩ := get?_eq_some_of_lt h
  by_cases ho : x = .opening
  · subst ho
    exact .inl ⟨hx, height_succ_of_opening hx⟩
  · by_cases hc : x = .closing
    · subst hc
      exact .inr (.inl ⟨hx, height_succ_of_closing hx⟩)
    · exact .inr (.inr (height_succ_of_ne hx ho hc))

/-! ### Well nested stretches -/

/-- The instructions from position `a` up to, and not including, `b` are well nested: they close
as many loops as they open, and none that was open before. -/
structure Nested (p : Program) (a b : Nat) : Prop where
  /-- The stretch does not end before it begins. -/
  le : a ≤ b
  /-- The stretch lies in the program. -/
  le_length : b ≤ p.length
  /-- Every loop that is opened is closed. -/
  level : p.height b = p.height a
  /-- No loop from outside is closed. -/
  above : ∀ k, a ≤ k → k ≤ b → p.height a ≤ p.height k

/-- The brackets at `i` and `j` enclose a loop. -/
structure Mates (p : Program) (i j : Nat) : Prop where
  /-- The loop opens at `i`. -/
  opening : p.get? i = some .opening
  /-- The loop closes at `j`. -/
  closing : p.get? j = some .closing
  /-- The body is well nested. -/
  body : p.Nested (i + 1) j

/-- Every bracket of the program has its partner: no prefix closes more loops than it opens, and
the whole closes all of them. -/
def Balanced (p : Program) : Prop := p.Nested 0 p.length

theorem nested_refl {p : Program} {a : Nat} (h : a ≤ p.length) : p.Nested a a where
  le := Nat.le_refl a
  le_length := h
  level := rfl
  above k h₁ h₂ := by
    obtain rfl : k = a := by omega
    exact Int.le_refl _

/-- Two stretches that meet are one. -/
theorem Nested.trans {p : Program} {a b c : Nat} (h₁ : p.Nested a b) (h₂ : p.Nested b c) :
    p.Nested a c where
  le := Nat.le_trans h₁.le h₂.le
  le_length := h₂.le_length
  level := by rw [h₂.level, h₁.level]
  above k ha hc := by
    rcases Nat.le_total k b with hk | hk
    · exact h₁.above k ha hk
    · rw [← h₁.level]
      exact h₂.above k hk hc

/-- An instruction that is no bracket is well nested. -/
theorem nested_succ_of_ne {p : Program} {i : Nat} {x : Instruction} (h : p.get? i = some x)
    (ho : x ≠ .opening) (hc : x ≠ .closing) : p.Nested i (i + 1) where
  le := Nat.le_succ i
  le_length := lt_length_of_get? h
  level := height_succ_of_ne h ho hc
  above k h₁ h₂ := by
    rcases Nat.lt_or_eq_of_le h₂ with hk | hk
    · obtain rfl : k = i := by omega
      exact Int.le_refl _
    · rw [hk]
      exact Int.le_of_eq (height_succ_of_ne h ho hc).symm

namespace Mates

variable {p : Program} {i j : Nat}

theorem lt (h : p.Mates i j) : i < j := h.body.le

theorem height_closing (h : p.Mates i j) : p.height j = p.height i + 1 := by
  rw [h.body.level, height_succ_of_opening h.opening]

/-- Behind a loop the height is what it was before the loop. -/
theorem height_succ (h : p.Mates i j) : p.height (j + 1) = p.height i := by
  rw [height_succ_of_closing h.closing, h.height_closing]
  omega

/-- A loop with its brackets is well nested. -/
theorem nested (h : p.Mates i j) : p.Nested i (j + 1) where
  le := by
    have := h.lt
    omega
  le_length := lt_length_of_get? h.closing
  level := h.height_succ
  above k h₁ h₂ := by
    rcases Nat.lt_or_eq_of_le h₁ with hi | rfl
    · rcases Nat.lt_or_eq_of_le h₂ with hj | rfl
      · have := h.body.above k hi (by omega)
        rw [height_succ_of_opening h.opening] at this
        omega
      · exact Int.le_of_eq h.height_succ.symm
    · exact Int.le_refl _

end Mates

/-! ### What a scan to the right finds -/

/-- At `j` the program goes below the given level, for the first time from `i` on. -/
structure DropsAt (p : Program) (level : Int) (i j : Nat) : Prop where
  le : i ≤ j
  closing : p.get? j = some .closing
  eq_level : p.height j = level
  above : ∀ k, i ≤ k → k ≤ j → level ≤ p.height k

/-- A position at which the program does not drop can be left out. -/
theorem dropsAt_succ_iff {p : Program} {level : Int} {i j : Nat} (hi : level ≤ p.height i)
    (hne : p.get? i = some .closing → p.height i ≠ level) :
    p.DropsAt level (i + 1) j ↔ p.DropsAt level i j := by
  constructor
  · intro h
    refine ⟨Nat.le_of_succ_le h.le, h.closing, h.eq_level, fun k h₁ h₂ => ?_⟩
    rcases Nat.lt_or_eq_of_le h₁ with hk | rfl
    · exact h.above k hk h₂
    · exact hi
  · intro h
    have hij : i ≠ j := by
      rintro rfl
      exact hne h.closing h.eq_level
    have := h.le
    exact ⟨by omega, h.closing, h.eq_level, fun k h₁ h₂ => h.above k (by omega) h₂⟩

/-- At a drop the search is over: the program falls below the level right behind it. -/
theorem dropsAt_self_iff {p : Program} {i j : Nat} (hi : p.get? i = some .closing) :
    p.DropsAt (p.height i) i j ↔ i = j := by
  constructor
  · intro h
    rcases Nat.lt_or_eq_of_le h.le with hij | hij
    · have := h.above (i + 1) (by omega) hij
      rw [height_succ_of_closing hi] at this
      omega
    · exact hij
  · rintro rfl
    refine ⟨Nat.le_refl i, hi, rfl, fun k h₁ h₂ => ?_⟩
    obtain rfl : k = i := by omega
    exact Int.le_refl _

/-- From the height of the position on, a drop is a closing bracket behind a well nested stretch. -/
theorem dropsAt_height_iff {p : Program} {i j : Nat} :
    p.DropsAt (p.height i) i j ↔ p.get? j = some .closing ∧ p.Nested i j := by
  constructor
  · intro h
    exact ⟨h.closing, h.le, Nat.le_of_lt (lt_length_of_get? h.closing), h.eq_level, h.above⟩
  · rintro ⟨hc, h⟩
    exact ⟨h.le, hc, h.level, h.above⟩

/-- The scan to the right stops where the program drops below the level it set out from, less the
loops that were entered before. -/
theorem scanRight_eq_some_iff {p : Program} {depth i j : Nat} :
    p.scanRight depth i = some j ↔ p.DropsAt (p.height i - depth) i j := by
  -- depth and height rise and fall together, so the level stays while the scan goes on
  fun_induction scanRight p depth i with
  | case1 depth i hi hg ih =>
      have hl : p.height (i + 1) - ((depth + 1 : Nat) : Int) = p.height i - depth := by
        rw [height_succ_of_opening hg]
        omega
      rw [ih, hl, dropsAt_succ_iff (by omega)]
      intro hc
      rw [hg] at hc
      cases hc
  | case2 i hi hg =>
      rw [Int.natCast_zero, Int.sub_zero, dropsAt_self_iff hg, Option.some.injEq]
  | case3 depth i hi hg hd ih =>
      have hl : p.height (i + 1) - ((depth - 1 : Nat) : Int) = p.height i - depth := by
        rw [height_succ_of_closing hg]
        omega
      rw [ih, hl, dropsAt_succ_iff (by omega)]
      intro _
      omega
  | case4 depth i hi h₁ h₂ ih =>
      obtain ⟨x, hx⟩ := get?_eq_some_of_lt hi
      have ho : x ≠ .opening := fun h => h₁ (h ▸ hx)
      have hc : x ≠ .closing := fun h => h₂ (h ▸ hx)
      rw [ih, height_succ_of_ne hx ho hc, dropsAt_succ_iff (by omega)]
      intro h
      exact absurd h h₂
  | case5 depth i hi =>
      constructor
      · intro h
        cases h
      · intro h
        have h₁ := h.le
        have h₂ := lt_length_of_get? h.closing
        omega

/-! ### What a scan to the left finds -/

/-- On the way back from `i` the program goes below the given level at the opening at `j`, for the
first time. -/
structure RisesAt (p : Program) (level : Int) (i j : Nat) : Prop where
  lt : j < i
  le_length : i ≤ p.length
  opening : p.get? j = some .opening
  eq_level : p.height (j + 1) = level
  above : ∀ k, j < k → k ≤ i → level ≤ p.height k

/-- A position at which the program does not rise can be left out. -/
theorem risesAt_succ_iff {p : Program} {level : Int} {i j : Nat} (hi : i < p.length)
    (hl : level ≤ p.height (i + 1))
    (hne : p.get? i = some .opening → p.height (i + 1) ≠ level) :
    p.RisesAt level i j ↔ p.RisesAt level (i + 1) j := by
  constructor
  · intro h
    refine ⟨Nat.lt_succ_of_lt h.lt, hi, h.opening, h.eq_level, fun k h₁ h₂ => ?_⟩
    rcases Nat.lt_or_eq_of_le h₂ with hk | rfl
    · exact h.above k h₁ (by omega)
    · exact hl
  · intro h
    have hij : j ≠ i := by
      rintro rfl
      exact hne h.opening h.eq_level
    have := h.lt
    exact ⟨by omega, by omega, h.opening, h.eq_level, fun k h₁ h₂ => h.above k h₁ (by omega)⟩

/-- At a rise the search is over: the program lies below the level right before it. -/
theorem risesAt_self_iff {p : Program} {i j : Nat} (hi : p.get? i = some .opening) :
    p.RisesAt (p.height (i + 1)) (i + 1) j ↔ i = j := by
  constructor
  · intro h
    rcases Nat.lt_or_ge j i with hij | hij
    · have := h.above i hij (by omega)
      rw [height_succ_of_opening hi] at this
      omega
    · have := h.lt
      omega
  · rintro rfl
    refine ⟨Nat.lt_succ_self i, lt_length_of_get? hi, hi, rfl, fun k h₁ h₂ => ?_⟩
    obtain rfl : k = i + 1 := by omega
    exact Int.le_refl _

/-- From the height of the position back, a rise is an opening bracket before a well nested
stretch. -/
theorem risesAt_height_iff {p : Program} {i j : Nat} :
    p.RisesAt (p.height i) i j ↔ p.get? j = some .opening ∧ p.Nested (j + 1) i := by
  constructor
  · intro h
    refine ⟨h.opening, h.lt, h.le_length, h.eq_level.symm, fun k h₁ h₂ => ?_⟩
    rw [h.eq_level]
    exact h.above k h₁ h₂
  · rintro ⟨ho, h⟩
    refine ⟨h.le, h.le_length, ho, h.level.symm, fun k h₁ h₂ => ?_⟩
    rw [h.level]
    exact h.above k h₁ h₂

/-- The scan to the left stops where the way back goes below the level it set out from, less the
loops that were entered before. -/
theorem scanLeft_eq_some_iff {p : Program} {depth i j : Nat} :
    p.scanLeft depth i = some j ↔ p.RisesAt (p.height i - depth) i j := by
  -- on the way back a closing bracket is entered, and an opening one left
  fun_induction scanLeft p depth i with
  | case1 depth =>
      constructor
      · intro h
        cases h
      · intro h
        have := h.lt
        omega
  | case2 depth i hg =>
      constructor
      · intro h
        cases h
      · intro h
        obtain ⟨x, hx⟩ := get?_eq_some_of_lt (p := p) (i := i) h.le_length
        rw [hg] at hx
        cases hx
  | case3 depth i hg ih =>
      have hl : p.height i - ((depth + 1 : Nat) : Int) = p.height (i + 1) - depth := by
        rw [height_succ_of_closing hg]
        omega
      rw [ih, hl, risesAt_succ_iff (lt_length_of_get? hg) (by omega)]
      intro ho
      rw [hg] at ho
      cases ho
  | case4 i hg =>
      rw [Int.natCast_zero, Int.sub_zero, risesAt_self_iff hg, Option.some.injEq]
  | case5 depth i hg hd ih =>
      have hl : p.height i - ((depth - 1 : Nat) : Int) = p.height (i + 1) - depth := by
        rw [height_succ_of_opening hg]
        omega
      rw [ih, hl, risesAt_succ_iff (lt_length_of_get? hg) (by omega)]
      intro _
      omega
  | case6 depth i x hc ho hx ih =>
      rw [ih, ← height_succ_of_ne hx ho hc, risesAt_succ_iff (lt_length_of_get? hx) (by omega)]
      intro h
      rw [hx] at h
      exact absurd (Option.some.inj h) ho

/-! ### The partner of a bracket -/

theorem partner_eq_ok_iff {p : Program} {i j : Nat} {d : Direction} :
    p.partner i d = .ok j ↔
      match d with
      | .forward => p.scanRight 0 (i + 1) = some j
      | .backward => p.scanLeft 0 i = some j := by
  unfold partner
  cases d <;> dsimp only <;> split <;> simp_all

/-- **A scan to the right finds the closing bracket behind a well nested stretch.**  It need not
set out from a bracket. -/
theorem partner_forward_eq_ok_iff {p : Program} {i j : Nat} :
    p.partner i .forward = .ok j ↔ p.get? j = some .closing ∧ p.Nested (i + 1) j := by
  rw [partner_eq_ok_iff]
  dsimp only
  rw [scanRight_eq_some_iff, Int.natCast_zero, Int.sub_zero, dropsAt_height_iff]

/-- **A scan to the left finds the opening bracket before a well nested stretch.**  It need not set
out from a bracket, but it has to set out inside the program or at its end. -/
theorem partner_backward_eq_ok_iff {p : Program} {i j : Nat} :
    p.partner i .backward = .ok j ↔ p.get? j = some .opening ∧ p.Nested (j + 1) i := by
  rw [partner_eq_ok_iff]
  dsimp only
  rw [scanLeft_eq_some_iff, Int.natCast_zero, Int.sub_zero, risesAt_height_iff]

/-- From an opening bracket the scan finds its mate. -/
theorem partner_forward_iff_mates {p : Program} {i j : Nat} (h : p.get? i = some .opening) :
    p.partner i .forward = .ok j ↔ p.Mates i j := by
  rw [partner_forward_eq_ok_iff]
  constructor
  · rintro ⟨hc, hn⟩
    exact ⟨h, hc, hn⟩
  · intro hm
    exact ⟨hm.closing, hm.body⟩

/-- From a closing bracket the scan finds its mate. -/
theorem partner_backward_iff_mates {p : Program} {i j : Nat} (h : p.get? j = some .closing) :
    p.partner j .backward = .ok i ↔ p.Mates i j := by
  rw [partner_backward_eq_ok_iff]
  constructor
  · rintro ⟨ho, hn⟩
    exact ⟨ho, h, hn⟩
  · intro hm
    exact ⟨hm.opening, hm.body⟩

/-- A scan that finds nothing reports where it set out, and which side it sought a partner for. -/
theorem partner_eq_error_iff {p : Program} {i : Nat} {d : Direction} {u : Unmatched} :
    p.partner i d = .error u ↔ u = ⟨i, d.side⟩ ∧ ∀ j, p.partner i d ≠ .ok j := by
  unfold partner
  cases d <;> dsimp only <;> split <;> simp [eq_comm]

end Program

end TapeMachine
