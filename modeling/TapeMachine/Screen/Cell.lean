/-
**Cells of the screen.**

A cell of the screen shows a character in two colours, perhaps bold, perhaps with the colours
exchanged.  What a cell shows is told as a text, since a terminal can put several characters into
one cell, or none.  A style names some of these properties and leaves the others as they are.

Main definitions:

* `TapeMachine.Style`, `TapeMachine.Screen.Cell` — a style, and a cell;
* `TapeMachine.Glyph` — a character in a style;
* `TapeMachine.Style.apply`, `TapeMachine.Glyph.draw` — what they do to a cell;
* `TapeMachine.Screen` — what a screen shows.
-/

import TapeMachine.Color.Basic
import TapeMachine.Screen.Area

set_option relaxedAutoImplicit false
set_option autoImplicit false

namespace TapeMachine

/-- The properties of a cell that a text asks for. -/
structure Style where
  /-- The colour of the character, if asked for. -/
  foreground : Option Color
  /-- The colour behind it, if asked for. -/
  background : Option Color
  /-- The character becomes bold. -/
  bold : Bool
  /-- The colours are exchanged. -/
  reversed : Bool
deriving DecidableEq

namespace Style

/-- Nothing is asked for. -/
def plain : Style := ⟨none, none, false, false⟩

/-- Characters of a colour. -/
def ofForeground (color : Color) : Style := { plain with foreground := some color }

/-- A colour behind the characters. -/
def ofBackground (color : Color) : Style := { plain with background := some color }

/-- Bold characters of a colour. -/
def boldOf (color : Color) : Style := { ofForeground color with bold := true }

/-- Bold characters of a colour, with the colours exchanged: the mark of the current place. -/
def markOf (color : Color) : Style := { boldOf color with reversed := true }

/-- What the first style asks for, as far as the second does not ask for something else. -/
def patch (s u : Style) : Style where
  foreground := u.foreground.or s.foreground
  background := u.background.or s.background
  bold := s.bold || u.bold
  reversed := s.reversed || u.reversed

@[simp] theorem plain_patch (s : Style) : plain.patch s = s := by
  simp [patch, plain]

@[simp] theorem patch_plain (s : Style) : s.patch plain = s := by
  simp [patch, plain]

end Style

namespace Screen

/-- A cell of the screen. -/
structure Cell where
  /-- What is written in it. -/
  symbol : List Char
  /-- The colour of the character. -/
  foreground : Color
  /-- The colour behind it. -/
  background : Color
  /-- The character is bold. -/
  bold : Bool
  /-- The colours are exchanged. -/
  reversed : Bool
deriving DecidableEq

/-- A cell that shows nothing. -/
def Cell.blank : Cell := ⟨[' '], .reset, .reset, false, false⟩

instance : Inhabited Cell := ⟨Cell.blank⟩

end Screen

/-- A cell with the properties that a style asks for. -/
def Style.apply (s : Style) (c : Screen.Cell) : Screen.Cell :=
  { c with
    foreground := s.foreground.getD c.foreground
    background := s.background.getD c.background
    bold := s.bold || c.bold
    reversed := s.reversed || c.reversed }

@[simp] theorem Style.apply_plain (c : Screen.Cell) : Style.plain.apply c = c := rfl

/-- A character in a style. -/
structure Glyph where
  /-- The character. -/
  symbol : Char
  /-- Its style. -/
  style : Style
deriving DecidableEq

/-- A cell with a glyph written in it. -/
def Glyph.draw (g : Glyph) (c : Screen.Cell) : Screen.Cell :=
  { g.style.apply c with symbol := [g.symbol] }

/-- A cell with a glyph written in it, if there is one. -/
def Glyph.draw? (g? : Option Glyph) (c : Screen.Cell) : Screen.Cell :=
  match g? with
  | none => c
  | some g => g.draw c

/-- The glyphs of a text in one style. -/
def glyphs (style : Style) (t : List Char) : List Glyph := t.map fun c => ⟨c, style⟩

@[simp] theorem length_glyphs (style : Style) (t : List Char) :
    (glyphs style t).length = t.length := by
  simp [glyphs]

/-- What a screen shows: its size, its cells, and where the cursor stands, if it is shown. -/
structure Screen where
  /-- The number of columns. -/
  width : Nat
  /-- The number of rows. -/
  height : Nat
  /-- The cell at a column and a row. -/
  cell : Nat → Nat → Screen.Cell
  /-- The column and the row of the cursor. -/
  cursor : Option (Nat × Nat)

namespace Screen

/-- A screen that shows nothing. -/
def empty (width height : Nat) : Screen := ⟨width, height, fun _ _ => Cell.blank, none⟩

/-- The cells that a screen has. -/
def area (s : Screen) : Area := Area.ofSize s.width s.height

/-- The cells of a row. -/
def row (s : Screen) (y : Nat) : List Cell := (List.range s.width).map fun x => s.cell x y

/-- The rows of cells. -/
def rows (s : Screen) : List (List Cell) := (List.range s.height).map s.row

end Screen

end TapeMachine
