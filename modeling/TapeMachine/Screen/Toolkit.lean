/-
**Toolkits.**

A toolkit cuts the screen into areas and draws widgets in them.  The viewer is written for any
toolkit, and knows of it only what is said here: what it can be asked for, and the laws that its
answers obey.  The laws leave open how the pieces of an area are measured, what a border looks like,
where a long line is broken, and what becomes of a character that does not take exactly one cell.

Main definitions:

* `TapeMachine.Toolkit` — a toolkit;
* `TapeMachine.isPrintable`, `TapeMachine.Toolkit.MonospacedLine` — the characters that take one
  cell everywhere, and the lines whose characters take one cell each;
* `TapeMachine.Toolkit.Lawful` — **the laws**;
* `TapeMachine.Placed`, `TapeMachine.Toolkit.renderAll` — widgets that are drawn one after another.
-/

import TapeMachine.Breach
import TapeMachine.Screen.Widget

set_option relaxedAutoImplicit false
set_option autoImplicit false

namespace TapeMachine

/-- What draws on the screen of a terminal. -/
structure Toolkit where
  /-- What is drawn on. -/
  Frame : Type
  /-- A frame on which nothing is drawn, for a screen of the given size. -/
  blank : Nat → Nat → Frame
  /-- What a screen shows once the frame is put on it. -/
  screen : Frame → Screen
  /-- An area cut into pieces, one for each constraint. -/
  split : Orientation → List Constraint → Area → Except Breach (List Area)
  /-- What a box leaves of an area for other widgets. -/
  inner : Box → Area → Area
  /-- A frame with a widget drawn in an area. -/
  render : Widget → Area → Frame → Except Breach Frame
  /-- A frame with the cursor at a column and a row. -/
  placeCursor : Nat → Nat → Frame → Frame
  /-- The characters of a text are written into cells one by one, each into a cell of its own. -/
  Monospaced : List Char → Prop

/-- A character that every terminal writes into one cell. -/
def isPrintable (c : Char) : Bool := (0x20 ≤ c.toNat && c.toNat < 0x7F) || c = '─'

namespace Toolkit

/-- The characters of a line are written into cells one by one. -/
def MonospacedLine (t : Toolkit) (l : Line) : Prop := ∀ s ∈ l.spans, t.Monospaced s.text

/-- What a border along all edges leaves of an area. -/
def inside (t : Toolkit) (a : Area) : Area := t.inner (Box.bare .all) a

/-- **The laws of a toolkit.** -/
structure Lawful (t : Toolkit) : Prop where
  /-- A frame on which nothing is drawn shows nothing. -/
  screen_blank : ∀ width height, t.screen (t.blank width height) = Screen.empty width height
  /-- Placing the cursor changes nothing else. -/
  screen_placeCursor : ∀ x y f,
    t.screen (t.placeCursor x y f) = { t.screen f with cursor := some (x, y) }
  /-- Every area can be cut. -/
  split_ok : ∀ o cs a, ∃ pieces, t.split o cs a = .ok pieces
  /-- Each constraint gets a piece. -/
  length_split : ∀ {o cs a pieces}, t.split o cs a = .ok pieces → pieces.length = cs.length
  /-- The pieces lie in the area. -/
  split_within : ∀ {o cs a pieces}, t.split o cs a = .ok pieces → ∀ b ∈ pieces, b.Within a
  /-- The pieces lie apart. -/
  split_apart : ∀ {o cs a pieces}, t.split o cs a = .ok pieces → pieces.Pairwise Area.Apart
  /-- A box leaves a part of its area. -/
  inner_within : ∀ b a, (t.inner b a).Within a
  /-- What a border along all edges leaves does not depend on its title or its styles. -/
  inner_eq_inside : ∀ {b : Box}, b.edges = .all → ∀ a, t.inner b a = t.inside a
  /-- A widget can be drawn in every area of the screen. -/
  render_ok : ∀ w {a f}, a.Within (t.screen f).area → ∃ g, t.render w a f = .ok g
  /-- Drawing does not change the size of the screen. -/
  render_size : ∀ {w a f g}, t.render w a f = .ok g →
    (t.screen g).width = (t.screen f).width ∧ (t.screen g).height = (t.screen f).height
  /-- Drawing does not move the cursor. -/
  render_cursor : ∀ {w a f g}, t.render w a f = .ok g → (t.screen g).cursor = (t.screen f).cursor
  /-- Drawing in an area leaves the cells beside it alone. -/
  render_outside : ∀ {w a f g}, t.render w a f = .ok g → ∀ {x y}, a.contains x y = false →
    (t.screen g).cell x y = (t.screen f).cell x y
  /-- Drawing a box without a style leaves the cells alone that it leaves for other widgets. -/
  render_box : ∀ {b a f g}, t.render (.box b) a f = .ok g → b.style = Style.plain →
    ∀ {x y}, (t.inner b a).contains x y = true → (t.screen g).cell x y = (t.screen f).cell x y
  /-- Lines whose characters take one cell each are written row by row from the upper left corner of
  the area on, as far as there is room for them; other cells are left alone. -/
  render_text : ∀ {lines a f g}, t.render (.text (.ofLines lines)) a f = .ok g →
    a.Within (t.screen f).area → (∀ l ∈ lines, t.MonospacedLine l) →
    ∀ {i j}, i < a.width → j < a.height →
      (t.screen g).cell (a.x + i) (a.y + j) =
        Glyph.draw? (lines[j]?.bind (·.glyphs[i]?)) ((t.screen f).cell (a.x + i) (a.y + j))
  /-- Printable characters take one cell each. -/
  monospaced_of_printable : ∀ {text : List Char}, (∀ c ∈ text, isPrintable c = true) →
    t.Monospaced text

end Toolkit

/-- A widget and the area it is drawn in. -/
structure Placed where
  /-- The widget. -/
  widget : Widget
  /-- The area. -/
  area : Area
deriving DecidableEq

/-- A frame with some widgets drawn on it, one after another. -/
def Toolkit.renderAll (t : Toolkit) (f : t.Frame) (widgets : List Placed) :
    Except Breach t.Frame :=
  widgets.foldlM (fun f p => t.render p.widget p.area f) f

/-- A frame with the cursor, if it is shown. -/
def Toolkit.showCursor (t : Toolkit) (cursor : Option (Nat × Nat)) (f : t.Frame) : t.Frame :=
  match cursor with
  | none => f
  | some (x, y) => t.placeCursor x y f

end TapeMachine
