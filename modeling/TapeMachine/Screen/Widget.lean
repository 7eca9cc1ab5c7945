/-
**Widgets.**

What a program hands to a toolkit to be drawn: lines of text, made of spans that have a style each,
and boxes around them.  A widget says nothing of where it is drawn, and nothing of how.

Main definitions:

* `TapeMachine.Span`, `TapeMachine.Line` — a text in a style, and a line of such texts;
* `TapeMachine.Box`, `TapeMachine.Paragraph`, `TapeMachine.Widget` — what can be drawn;
* `TapeMachine.Orientation`, `TapeMachine.Constraint` — how an area is cut up.

Main results:

* `TapeMachine.Line.glyphs_ofSpans`, `TapeMachine.Line.glyphs_styled` — the glyphs of a line.
-/

import TapeMachine.Screen.Cell

set_option relaxedAutoImplicit false
set_option autoImplicit false

namespace TapeMachine

/-- A text in a style. -/
structure Span where
  /-- The text. -/
  text : List Char
  /-- Its style. -/
  style : Style
deriving DecidableEq

/-- A line of text. -/
structure Line where
  /-- Its pieces, from left to right. -/
  spans : List Span
  /-- The style of the line, as far as its pieces do not ask for something else. -/
  style : Style
deriving DecidableEq

namespace Line

/-- A line of pieces. -/
def ofSpans (spans : List Span) : Line := ⟨spans, Style.plain⟩

/-- A line that is a text in a style. -/
def styled (text : List Char) (style : Style) : Line := ⟨[⟨text, Style.plain⟩], style⟩

/-- A line that is a text. -/
def raw (text : List Char) : Line := styled text Style.plain

/-- The characters of a line in their styles. -/
def glyphs (l : Line) : List Glyph :=
  l.spans.flatMap fun s => TapeMachine.glyphs (l.style.patch s.style) s.text

/-- **The glyphs of a line** are those of its pieces. -/
@[simp] theorem glyphs_ofSpans (spans : List Span) :
    (ofSpans spans).glyphs = spans.flatMap fun s => TapeMachine.glyphs s.style s.text := by
  simp [glyphs, ofSpans]

@[simp] theorem glyphs_styled (text : List Char) (style : Style) :
    (styled text style).glyphs = TapeMachine.glyphs style text := by
  simp [glyphs, styled]

@[simp] theorem glyphs_raw (text : List Char) :
    (raw text).glyphs = TapeMachine.glyphs Style.plain text := glyphs_styled text Style.plain

end Line

/-- The edges along which a box has a border. -/
inductive Edges where
  | all
  | top
deriving DecidableEq

/-- A border with a title. -/
structure Box where
  /-- The title in the upper edge. -/
  title : Option Span
  /-- Where there is a border. -/
  edges : Edges
  /-- The style of the border. -/
  borderStyle : Style
  /-- The style of all cells of the box. -/
  style : Style
deriving DecidableEq

namespace Box

/-- A border without a title, and nothing asked for. -/
def bare (edges : Edges) : Box := ⟨none, edges, Style.plain, Style.plain⟩

end Box

/-- Lines of text. -/
structure Paragraph where
  /-- The lines. -/
  lines : List Line
  /-- The style of all cells of the paragraph. -/
  style : Style
  /-- Lines that are too long are broken between words, not cut off. -/
  wrap : Bool
deriving DecidableEq

namespace Paragraph

/-- Lines that are cut off where they are too long. -/
def ofLines (lines : List Line) : Paragraph := ⟨lines, Style.plain, false⟩

end Paragraph

/-- What can be drawn in an area. -/
inductive Widget where
  | box (b : Box)
  | text (p : Paragraph)
  /-- Nothing: whatever was drawn before is taken away. -/
  | clear
deriving DecidableEq

/-- The direction in which pieces of an area follow each other. -/
inductive Orientation where
  /-- From left to right. -/
  | horizontal
  /-- From the top down. -/
  | vertical
deriving DecidableEq

/-- What a piece of an area asks for. -/
inductive Constraint where
  /-- At least so many columns or rows, and more if there are any left. -/
  | min (n : Nat)
  /-- So many columns or rows. -/
  | length (n : Nat)
  /-- So many in a hundred. -/
  | percentage (n : Nat)
deriving DecidableEq

end TapeMachine
