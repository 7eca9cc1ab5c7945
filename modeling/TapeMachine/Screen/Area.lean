/-
**Areas of the screen.**

Main definitions:

* `TapeMachine.Area` — a rectangle, by its upper left corner and its size;
* `TapeMachine.Area.contains` — a cell lies in an area;
* `TapeMachine.Area.Within`, `TapeMachine.Area.Apart` — an area lies in another one, and two areas
  have no cell in common.
-/

set_option relaxedAutoImplicit false
set_option autoImplicit false

namespace TapeMachine

/-- A rectangle of cells. -/
structure Area where
  /-- The first column. -/
  x : Nat
  /-- The first row. -/
  y : Nat
  /-- The number of columns. -/
  width : Nat
  /-- The number of rows. -/
  height : Nat
deriving DecidableEq

namespace Area

/-- The cells of a screen of the given size. -/
def ofSize (width height : Nat) : Area := ⟨0, 0, width, height⟩

/-- A cell lies in an area. -/
def contains (a : Area) (x y : Nat) : Bool :=
  a.x ≤ x && x < a.x + a.width && a.y ≤ y && y < a.y + a.height

/-- Every cell of the first area lies in the second. -/
def Within (a b : Area) : Prop := ∀ x y : Nat, a.contains x y = true → b.contains x y = true

/-- No cell lies in both areas. -/
def Apart (a b : Area) : Prop :=
  ∀ x y : Nat, a.contains x y = true → b.contains x y = true → False

theorem contains_iff (a : Area) (x y : Nat) :
    a.contains x y = true ↔
      (a.x ≤ x ∧ x < a.x + a.width) ∧ (a.y ≤ y ∧ y < a.y + a.height) := by
  simp only [contains, Bool.and_eq_true, decide_eq_true_eq]
  omega

theorem contains_ofSize_iff (width height x y : Nat) :
    (ofSize width height).contains x y = true ↔ x < width ∧ y < height := by
  rw [contains_iff]
  simp only [ofSize]
  omega

theorem contains_add (a : Area) {i j : Nat} (hi : i < a.width) (hj : j < a.height) :
    a.contains (a.x + i) (a.y + j) = true := by
  rw [contains_iff]
  omega

theorem Within.refl (a : Area) : a.Within a := fun _ _ h => h

theorem Within.trans {a b c : Area} (hab : a.Within b) (hbc : b.Within c) : a.Within c :=
  fun x y h => hbc x y (hab x y h)

/-- A cell beside the larger area lies beside the smaller one. -/
theorem Within.contains_eq_false {a b : Area} (h : a.Within b) {x y : Nat}
    (hb : b.contains x y = false) : a.contains x y = false := by
  rw [Bool.eq_false_iff] at hb ⊢
  exact fun ha => hb (h x y ha)

theorem Apart.symm {a b : Area} (h : Apart a b) : Apart b a := fun x y hb ha => h x y ha hb

theorem Apart.contains_eq_false {a b : Area} (h : Apart a b) {x y : Nat}
    (ha : a.contains x y = true) : b.contains x y = false := by
  rw [Bool.eq_false_iff]
  exact h x y ha

/-- Areas that lie in areas apart lie apart. -/
theorem Apart.mono {a a' b b' : Area} (h : Apart a b) (ha : a'.Within a) (hb : b'.Within b) :
    Apart a' b' := fun x y hxa hxb => h x y (ha x y hxa) (hb x y hxb)

end Area

end TapeMachine
