/-
**Well nested stretches.**

A stretch of a program is well nested when its heights say so: it ends as high as it begins, and is
nowhere lower.  One would rather say that every bracket in it has its partner in it, or that it is
the text of a structured program.  The three are the same, and this is proved here for stretches of
any program, however its other brackets stand.

Heights turn into partners by going along the program until it falls below a level.  Either it never
does, or there is a first place where it does, and what stands at that place is the bracket that a
scan would find.  The same is done on the way back, and everything else is read off the two.

Main results:

* `TapeMachine.Program.stays_or_drops`, `TapeMachine.Program.stays_or_rises` — a program stays above
  a level, or there is a first bracket that takes it below;
* `TapeMachine.Program.exists_mates_of_opening`, `TapeMachine.Program.exists_mates_of_closing` — so
  a bracket has a mate as soon as the program comes down to the height beside it;
* `TapeMachine.Program.nested_iff_mates` — **a stretch is well nested when every bracket in it has
  its mate in it**;
* `TapeMachine.Program.nested_iff_exists_block` — **or when it is the text of a structured
  program**.
-/

import Mathlib.Data.Nat.Init
import TapeMachine.Proofs.Block

set_option relaxedAutoImplicit false
set_option autoImplicit false

namespace TapeMachine

namespace Program

variable {p : Program} {level : Int} {a b i j k : Nat}

/-! ### Going below a level -/

/-- **On the way to the right a program stays above a level or drops below it.** -/
theorem stays_or_drops (hi : level ≤ p.height i) (hik : i ≤ k) (hk : k ≤ p.length) :
    (∀ l, i ≤ l → l ≤ k → level ≤ p.height l) ∨ ∃ j < k, p.DropsAt level i j := by
  induction k, hik using Nat.le_induction with
  | base =>
      refine .inl fun l h₁ h₂ => ?_
      rwa [Nat.le_antisymm h₂ h₁]
  | succ k hik ih =>
      rcases ih (Nat.le_of_succ_le hk) with hstays | ⟨j, hj, hdrop⟩
      · have hlast := hstays k hik (Nat.le_refl k)
        by_cases hnext : level ≤ p.height (k + 1)
        · refine .inl fun l h₁ h₂ => ?_
          rcases Nat.lt_or_eq_of_le h₂ with hl | rfl
          · exact hstays l h₁ (Nat.le_of_lt_succ hl)
          · exact hnext
        · -- only a closing bracket takes the program down
          rcases height_succ_cases hk with ⟨-, h⟩ | ⟨hclosing, h⟩ | h
          · omega
          · exact .inr ⟨k, Nat.lt_succ_self k, hik, hclosing, by omega, hstays⟩
          · omega
      · exact .inr ⟨j, Nat.lt_succ_of_lt hj, hdrop⟩

/-- **On the way to the left a program stays above a level or goes below it at a rise.** -/
theorem stays_or_rises (hi : level ≤ p.height i) (hki : k ≤ i) (hil : i ≤ p.length) :
    (∀ l, k ≤ l → l ≤ i → level ≤ p.height l) ∨ ∃ j, k ≤ j ∧ p.RisesAt level i j := by
  induction hki using Nat.decreasingInduction with
  | self =>
      refine .inl fun l h₁ h₂ => ?_
      rwa [Nat.le_antisymm h₂ h₁]
  | of_succ k hki ih =>
      rcases ih with hstays | ⟨j, hj, hrise⟩
      · have hnext := hstays (k + 1) (Nat.le_refl _) hki
        by_cases hlast : level ≤ p.height k
        · refine .inl fun l h₁ h₂ => ?_
          rcases Nat.lt_or_eq_of_le h₁ with hl | rfl
          · exact hstays l hl h₂
          · exact hlast
        · -- seen from the right, only an opening bracket takes the program down
          rcases height_succ_cases (Nat.lt_of_lt_of_le hki hil) with ⟨hopening, h⟩ | ⟨-, h⟩ | h
          · exact .inr ⟨k, Nat.le_refl k, hki, hil, hopening, by omega, hstays⟩
          · omega
          · omega
      · exact .inr ⟨j, Nat.le_of_succ_le hj, hrise⟩

/-! ### Mates -/

/-- An opening bracket has its mate before the program comes down to where it was. -/
theorem exists_mates_of_opening (hi : p.get? i = some .opening) (hik : i < k) (hk : k ≤ p.length)
    (hlow : p.height k ≤ p.height i) : ∃ j < k, p.Mates i j := by
  have hnext := height_succ_of_opening hi
  rcases stays_or_drops (Int.le_refl (p.height (i + 1))) hik hk with hstays | ⟨j, hj, hdrop⟩
  · have := hstays k hik (Nat.le_refl k)
    omega
  · obtain ⟨hclosing, hbody⟩ := dropsAt_height_iff.mp hdrop
    exact ⟨j, hj, hi, hclosing, hbody⟩

/-- A closing bracket has its mate behind the last place where the program was as low as it is
behind the bracket. -/
theorem exists_mates_of_closing (hj : p.get? j = some .closing) (hkj : k ≤ j)
    (hlow : p.height k ≤ p.height (j + 1)) : ∃ i, k ≤ i ∧ p.Mates i j := by
  have hnext := height_succ_of_closing hj
  have hlength := Nat.le_of_lt (lt_length_of_get? hj)
  rcases stays_or_rises (Int.le_refl (p.height j)) hkj hlength with hstays | ⟨i, hi, hrise⟩
  · have := hstays k (Nat.le_refl k) hkj
    omega
  · obtain ⟨hopening, hbody⟩ := risesAt_height_iff.mp hrise
    exact ⟨i, hi, hopening, hj, hbody⟩

/-- **A stretch is well nested when every bracket in it has its mate in it.** -/
theorem nested_iff_mates (hab : a ≤ b) (hb : b ≤ p.length) :
    p.Nested a b ↔
      (∀ i, a ≤ i → i < b → p.get? i = some .opening → ∃ j < b, p.Mates i j) ∧
        ∀ j, a ≤ j → j < b → p.get? j = some .closing → ∃ i, a ≤ i ∧ p.Mates i j := by
  constructor
  · intro h
    constructor
    · intro i hi hib hopening
      refine exists_mates_of_opening hopening hib hb ?_
      rw [h.level]
      exact h.above i hi (Nat.le_of_lt hib)
    · intro j hj hjb hclosing
      exact exists_mates_of_closing hclosing hj (h.above (j + 1) (Nat.le_succ_of_le hj) hjb)
  · rintro ⟨hopen, hclose⟩
    -- below the level of the beginning it would go at a closing bracket without a mate
    have habove : ∀ k, a ≤ k → k ≤ b → p.height a ≤ p.height k := by
      rcases stays_or_drops (Int.le_refl (p.height a)) hab hb with hstays | ⟨j, hj, hdrop⟩
      · exact hstays
      · obtain ⟨i, hi, hm⟩ := hclose j hdrop.le hj hdrop.closing
        have hbelow := hdrop.above i hi (Nat.le_of_lt hm.lt)
        have hlevel := hdrop.eq_level
        rw [hm.height_closing] at hlevel
        omega
    -- and below the level of the end, seen from there, at an opening one
    have hlevel : p.height b ≤ p.height a := by
      rcases stays_or_rises (Int.le_refl (p.height b)) hab hb with hstays | ⟨i, hi, hrise⟩
      · exact hstays a (Nat.le_refl a) hab
      · obtain ⟨j, hj, hm⟩ := hopen i hi hrise.lt hrise.opening
        have hbelow := hrise.above (j + 1) (Nat.lt_succ_of_lt hm.lt) hj
        have hlevel := hrise.eq_level
        rw [hm.height_succ] at hbelow
        rw [height_succ_of_opening hm.opening] at hlevel
        omega
    exact ⟨hab, hb, Int.le_antisymm hlevel (habove b hab (Nat.le_refl b)), habove⟩

/-! ### Structured programs -/

/-- What is left of a well nested stretch behind a well nested beginning. -/
theorem Nested.behind (h : p.Nested a b) (hk : p.Nested a k) (hkb : k ≤ b) : p.Nested k b where
  le := hkb
  le_length := h.le_length
  level := by rw [h.level, hk.level]
  above := by
    intro l h₁ h₂
    rw [hk.level]
    exact h.above l (Nat.le_trans hk.le h₁) h₂

theorem exists_command {x : Instruction} (ho : x ≠ .opening) (hc : x ≠ .closing) :
    ∃ c : Command, c.instruction = x := by
  cases x with
  | right => exact ⟨.right, rfl⟩
  | left => exact ⟨.left, rfl⟩
  | increment => exact ⟨.increment, rfl⟩
  | decrement => exact ⟨.decrement, rfl⟩
  | output => exact ⟨.output, rfl⟩
  | input => exact ⟨.input, rfl⟩
  | opening => contradiction
  | closing => contradiction

/-- Instructions that stand behind each other stand there as one list. -/
theorem Holds.concat {q : Nat} {l l' : List Instruction} (h : p.Holds q l)
    (h' : p.Holds (q + l.length) l') : p.Holds q (l ++ l') := by
  induction l generalizing q with
  | nil => exact h'
  | cons x rest ih =>
      refine ⟨h.1, ih h.2 ?_⟩
      rw [Nat.add_assoc, Nat.add_comm 1]
      exact h'

/-- The text of a structured program stands where a stretch is well nested. -/
theorem Nested.exists_block (h : p.Nested a b) :
    ∃ block : Block, p.Holds a block.flatten ∧ a + block.flatten.length = b := by
  -- the induction is on the length of the stretch, which a loop cuts into its body and the rest
  induction hd : b - a using Nat.strongRecOn generalizing a b with
  | _ d ih =>
      rcases Nat.lt_or_eq_of_le h.le with hab | rfl
      · obtain ⟨x, hx⟩ := get?_eq_some_of_lt (Nat.lt_of_lt_of_le hab h.le_length)
        obtain ⟨hopen, hclose⟩ := (nested_iff_mates h.le h.le_length).mp h
        by_cases ho : x = .opening
        · subst ho
          obtain ⟨j, hj, hm⟩ := hopen a (Nat.le_refl a) hab hx
          have hlt := hm.lt
          obtain ⟨body, hbody, hend⟩ := ih (j - (a + 1)) (by omega) hm.body rfl
          obtain ⟨rest, hrest, hend'⟩ := ih (b - (j + 1)) (by omega) (h.behind hm.nested hj) rfl
          refine ⟨.loop body rest, ⟨hx, hbody.concat ⟨?_, ?_⟩⟩, ?_⟩
          · rw [hend]
            exact hm.closing
          · rw [hend]
            exact hrest
          · rw [Block.end_loop, hend, hend']
        · by_cases hc : x = .closing
          · subst hc
            obtain ⟨i, hi, hm⟩ := hclose a (Nat.le_refl a) hab hx
            exact absurd hm.lt (Nat.not_lt.mpr hi)
          · obtain ⟨c, rfl⟩ := exists_command ho hc
            obtain ⟨rest, hrest, hend⟩ := ih (b - (a + 1)) (by omega)
              (h.behind (nested_succ_of_ne hx ho hc) hab) rfl
            refine ⟨.command c rest, ⟨hx, hrest⟩, ?_⟩
            rw [Block.end_command, hend]
      · exact ⟨.nil, h.le_length, rfl⟩

/-- **A stretch is well nested when it is the text of a structured program.** -/
theorem nested_iff_exists_block :
    p.Nested a b ↔ ∃ block : Block, p.Holds a block.flatten ∧ a + block.flatten.length = b := by
  constructor
  · exact Nested.exists_block
  · rintro ⟨block, hholds, rfl⟩
    exact hholds.nested

end Program

end TapeMachine
