/-
**The editor.**

The editor holds the lines of a text and the place of the cursor in them: the row, and in the row
the number of characters before the cursor.  A line is cut by bytes, so every edit goes through the
offset of a character in its line; a cut inside a character and a row that is not there are broken
contracts.  Whatever a key does, the cursor is taken into the text afterwards.

Main definitions:

* `TapeMachine.Editor`, `TapeMachine.Editor.ofSource` — the editor, and the one that a source text
  opens;
* `TapeMachine.Editor.text` — the text that is edited;
* `TapeMachine.Editor.act`, `TapeMachine.Editor.settle` — what a key does before the cursor is taken
  into the text, and taking it there;
* `TapeMachine.Editor.press` — what a key does.

Main results:

* `TapeMachine.Editor.lineAt_of_getElem?` — the contract of a row.
-/

import TapeMachine.Text.Lines
import TapeMachine.Text.Utf8
import TapeMachine.Viewer.Key

set_option relaxedAutoImplicit false
set_option autoImplicit false

namespace TapeMachine

open Text

/-- The lines of a text with a cursor in them, and the first row that is shown. -/
structure Editor where
  /-- The lines of the text. -/
  lines : List (List Char)
  /-- The number of the line the cursor is in, counted from zero. -/
  row : Nat
  /-- The number of characters before the cursor in its line. -/
  column : Nat
  /-- The first row that is shown. -/
  scroll : Nat
deriving DecidableEq, Inhabited

namespace Editor

/-- The editor of some lines with the cursor at their beginning; no lines at all count as one that
is empty. -/
def ofLines (lines : List (List Char)) : Editor :=
  ⟨if lines.isEmpty then [[]] else lines, 0, 0, 0⟩

/-- The editor that a source text opens. -/
def ofSource (source : String) : Editor := ofLines (Text.lines source.toList)

/-- The text. -/
def text (e : Editor) : List Char := joinLines e.lines

/-- The line with the given number. -/
def lineAt (e : Editor) (i : Nat) : Except Breach (List Char) :=
  match e.lines[i]? with
  | none => .error (.sliceOutside i (i + 1) e.lines.length)
  | some line => .ok line

/-! ### The keys -/

/-- Write a character at the cursor. -/
def insert (e : Editor) (c : Char) : Except Breach Editor := do
  let line ← e.lineAt e.row
  let (front, rest) ← splitBytes (byteOffset line e.column) line
  return { e with lines := e.lines.set e.row (front ++ c :: rest), column := e.column + 1 }

/-- Break the line at the cursor. -/
def breakLine (e : Editor) : Except Breach Editor := do
  let line ← e.lineAt e.row
  let (front, rest) ← splitBytes (byteOffset line e.column) line
  return { e with
    lines := (e.lines.set e.row front).insertIdx (e.row + 1) rest
    row := e.row + 1
    column := 0 }

/-- Remove the character before the cursor, or join the line to the one above. -/
def backspace (e : Editor) : Except Breach Editor := do
  if 0 < e.column then
    let line ← e.lineAt e.row
    let shorter ←
      removeBytes (byteOffset line (e.column - 1)) (byteOffset line e.column) line
    return { e with lines := e.lines.set e.row shorter, column := e.column - 1 }
  else if 0 < e.row then
    let line ← e.lineAt e.row
    let above ← e.lineAt (e.row - 1)
    return { e with
      lines := (e.lines.eraseIdx e.row).set (e.row - 1) (above ++ line)
      row := e.row - 1
      column := above.length }
  else return e

/-- Remove the character after the cursor, or join the line below to this one. -/
def delete (e : Editor) : Except Breach Editor := do
  let line ← e.lineAt e.row
  if e.column < line.length then
    let shorter ←
      removeBytes (byteOffset line e.column) (byteOffset line (e.column + 1)) line
    return { e with lines := e.lines.set e.row shorter }
  else if e.row + 1 < e.lines.length then
    let below ← e.lineAt (e.row + 1)
    return { e with lines := (e.lines.eraseIdx (e.row + 1)).set e.row (line ++ below) }
  else return e

/-- Go back by one character. -/
def left (e : Editor) : Except Breach Editor := do
  if 0 < e.column then return { e with column := e.column - 1 }
  else if 0 < e.row then
    let above ← e.lineAt (e.row - 1)
    return { e with row := e.row - 1, column := above.length }
  else return e

/-- Go on by one character. -/
def right (e : Editor) : Except Breach Editor := do
  let line ← e.lineAt e.row
  if e.column < line.length then return { e with column := e.column + 1 }
  else if e.row + 1 < e.lines.length then return { e with row := e.row + 1, column := 0 }
  else return e

/-- Go to the line above. -/
def up (e : Editor) : Editor := { e with row := e.row - 1 }

/-- Go to the line below. -/
def down (e : Editor) : Editor :=
  if e.row + 1 < e.lines.length then { e with row := e.row + 1 } else e

/-- Go to the beginning of the line. -/
def home (e : Editor) : Editor := { e with column := 0 }

/-- Go to the end of the line. -/
def finish (e : Editor) : Except Breach Editor := do
  let line ← e.lineAt e.row
  return { e with column := line.length }

/-- What a key does to the text and the cursor, before the cursor is taken into the text.  A
character is written unless the control key or the alternate key is held down with it, or it is a
control character. -/
def act (e : Editor) (press : KeyPress) : Except Breach Editor :=
  match press.key with
  | .left => e.left
  | .right => e.right
  | .up => .ok e.up
  | .down => .ok e.down
  | .home => .ok e.home
  | .finish => e.finish
  | .enter => e.breakLine
  | .backspace => e.backspace
  | .delete => e.delete
  | .char c =>
    if press.modifiers.control || press.modifiers.alt || isControl c then .ok e else e.insert c
  | _ => .ok e

/-- Take the cursor into the text: to the last line at most, and there to its end at most. -/
def settle (e : Editor) : Except Breach Editor := do
  let row := min e.row (e.lines.length - 1)
  let line ← e.lineAt row
  return { e with row := row, column := min e.column line.length }

/-- What a key does to the text and the cursor. -/
def press (e : Editor) (press : KeyPress) : Except Breach Editor := do
  let moved ← e.act press
  moved.settle

theorem lineAt_of_getElem? {e : Editor} {i : Nat} {line : List Char} (h : e.lines[i]? = some line) :
    e.lineAt i = .ok line := by
  simp only [lineAt, h]

end Editor

end TapeMachine
