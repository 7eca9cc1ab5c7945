/-
**Wrapping lines.**

A line that is too long for its width is broken between words, or inside a word that is longer than
the width.  Spaces at a break are dropped as far as the broken line has room for them; all other
spaces are kept, and a line without characters stays a line.

Main definitions:

* `TapeMachine.Wrap` — what is known while a line is being broken;
* `TapeMachine.wrapLine`, `TapeMachine.wrapLines` — a line, or several lines, broken to a width.
-/

import TapeMachine.Screen.Cell

set_option relaxedAutoImplicit false
set_option autoImplicit false

namespace TapeMachine

/-- The glyph is a space. -/
def Glyph.isBlank (g : Glyph) : Bool := g.symbol = ' '

/-- What is known while a line is being broken: the lines that are finished, the line that is being
filled, and the spaces and the word that have been read and not been put into a line. -/
structure Wrap where
  /-- The finished lines, the latest first. -/
  finished : List (List Glyph)
  /-- The line that is being filled. -/
  line : List Glyph
  /-- The spaces behind it. -/
  blank : List Glyph
  /-- The word behind the spaces. -/
  word : List Glyph
  /-- The character read last was part of a word. -/
  inWord : Bool

namespace Wrap

/-- Nothing has been read. -/
def start : Wrap := ⟨[], [], [], [], false⟩

/-- The spaces and the word go into the line when the word has ended, or when it fills the width on
its own. -/
def settle (width : Nat) (w : Wrap) (g : Glyph) : Wrap :=
  if (g.isBlank ∧ w.inWord) ∨ (w.line.isEmpty ∧ width < w.word.length + w.blank.length + 1) then
    { w with line := w.line ++ w.blank ++ w.word, blank := [], word := [] }
  else w

/-- There is no room for a further character in the line. -/
def isFull (width : Nat) (w : Wrap) : Bool :=
  width ≤ w.line.length || width ≤ w.line.length + w.blank.length + w.word.length

/-- The line is finished, and spaces it had room for are dropped. -/
def breakLine (width : Nat) (w : Wrap) : Wrap :=
  { w with
    finished := w.line :: w.finished
    line := []
    blank := w.blank.drop (width - w.line.length) }

/-- The character joins the spaces or the word. -/
def take (w : Wrap) (g : Glyph) : Wrap :=
  if g.isBlank then { w with blank := w.blank ++ [g], inWord := false }
  else { w with word := w.word ++ [g], inWord := true }

/-- The next character is read. -/
def read (width : Nat) (w : Wrap) (g : Glyph) : Wrap :=
  let w := w.settle width g
  if w.isFull width then
    let broken := w.breakLine width
    if g.isBlank ∧ broken.blank.isEmpty then broken else broken.take g
  else w.take g

/-- The lines when the last character has been read. -/
def finish (w : Wrap) : List (List Glyph) :=
  let finished :=
    if w.line.isEmpty ∧ w.word.isEmpty ∧ ¬ w.blank.isEmpty then [] :: w.finished else w.finished
  let last := w.line ++ w.blank ++ w.word
  (if last.isEmpty ∧ ¬ finished.isEmpty then finished else last :: finished).reverse

end Wrap

/-- A line broken to a width. -/
def wrapLine (width : Nat) (line : List Glyph) : List (List Glyph) :=
  (line.foldl (Wrap.read width) Wrap.start).finish

/-- Lines broken to a width. -/
def wrapLines (width : Nat) (lines : List (List Glyph)) : List (List Glyph) :=
  lines.flatMap (wrapLine width)

end TapeMachine
