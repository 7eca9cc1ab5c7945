/-
**The layout of the screen.**

The status line takes the last rows.  Of the rest, the tape pane takes a third on the right; on the
left the output pane takes the lower rows and the program pane what is above it.  How many rows and
columns these are is for the toolkit to say, which is only told what each of them asks for.

Main definitions:

* `TapeMachine.Layout`, `TapeMachine.Layout.ofArea` — the areas of a screen;
* `TapeMachine.Layout.statusTextArea` — the area of the text of the status line;
* `TapeMachine.Layout.helpArea`, `TapeMachine.Layout.helpTextArea` — the area that help covers, and
  the area of its text;
* `TapeMachine.bringIntoView` — how far a pane is scrolled to show a line.

Main results:

* `TapeMachine.bringIntoView_le`, `TapeMachine.lt_bringIntoView_add` — the line is shown.
-/

import TapeMachine.Screen.Toolkit

set_option relaxedAutoImplicit false
set_option autoImplicit false

namespace TapeMachine

/-- The areas of the screen. -/
structure Layout where
  /-- The program, or the editor. -/
  program : Area
  /-- The output. -/
  output : Area
  /-- The tape. -/
  tape : Area
  /-- The status line. -/
  status : Area
deriving DecidableEq

/-- The piece with the given number. -/
def pieceAt (pieces : List Area) (i : Nat) : Except Breach Area :=
  match pieces[i]? with
  | none => .error (.sliceOutside i (i + 1) pieces.length)
  | some a => .ok a

/-- An area cut into two pieces. -/
def Toolkit.cutInTwo (t : Toolkit) (o : Orientation) (first second : Constraint) (a : Area) :
    Except Breach (Area × Area) := do
  let pieces ← t.split o [first, second] a
  return (← pieceAt pieces 0, ← pieceAt pieces 1)

namespace Layout

/-- The areas of a screen that takes the given area. -/
def ofArea (t : Toolkit) (a : Area) : Except Breach Layout := do
  let (main, status) ← t.cutInTwo .vertical (.min 1) (.length 2) a
  let (left, tape) ← t.cutInTwo .horizontal (.percentage 65) (.percentage 35) main
  let (program, output) ← t.cutInTwo .vertical (.min 3) (.length 10) left
  return ⟨program, output, tape, status⟩

/-- The area of the text of the status line. -/
def statusTextArea (a : Area) : Area := ⟨a.x + 1, a.y + 1, a.width - 2, a.height - 1⟩

/-- The area that help covers: three quarters of the columns and two thirds of the rows, in the
middle. -/
def helpArea (a : Area) : Area :=
  let width := a.width - a.width / 4
  let height := a.height - a.height / 3
  ⟨a.x + (a.width - width) / 2, a.y + (a.height - height) / 2, width, height⟩

/-- The area of the help text in the area that help covers. -/
def helpTextArea (a : Area) : Area := ⟨a.x + 2, a.y + 2, a.width - 4, a.height - 4⟩

/-! ### Areas in areas -/

theorem statusTextArea_within (a : Area) : (statusTextArea a).Within a := by
  intro x y h
  rw [Area.contains_iff] at h ⊢
  simp only [statusTextArea] at h
  omega

theorem helpArea_within (a : Area) : (helpArea a).Within a := by
  intro x y h
  rw [Area.contains_iff] at h ⊢
  simp only [helpArea] at h
  omega

theorem helpTextArea_within (a : Area) : (helpTextArea a).Within a := by
  intro x y h
  rw [Area.contains_iff] at h ⊢
  simp only [helpTextArea] at h
  omega

end Layout

/-- The rows that a pane shows; a pane without rows is scrolled as if it had one. -/
def Area.viewHeight (a : Area) : Nat := max a.height 1

/-- How far a pane of the given height is scrolled to show a line: no further than it is when the
line is shown already, and with the line on top otherwise.  The end of the pane is taken to be a
number of 64 bits. -/
def bringIntoView (offset target height : Nat) : Nat :=
  if target < offset ∨ offset + max height 1 ≤ target then target else offset

/-- **The line is not above the pane.** -/
theorem bringIntoView_le (offset target height : Nat) :
    bringIntoView offset target height ≤ target := by
  unfold bringIntoView
  split <;> omega

/-- **The line is not below the pane.** -/
theorem lt_bringIntoView_add (offset target height : Nat) :
    target < bringIntoView offset target height + max height 1 := by
  unfold bringIntoView
  split <;> omega

/-- A line that is shown stays where it is. -/
theorem bringIntoView_idem (offset target height : Nat) :
    bringIntoView (bringIntoView offset target height) target height =
      bringIntoView offset target height := by
  have h₁ := bringIntoView_le offset target height
  have h₂ := lt_bringIntoView_add offset target height
  generalize bringIntoView offset target height = o at h₁ h₂
  unfold bringIntoView
  exact if_neg (by omega)

end TapeMachine
