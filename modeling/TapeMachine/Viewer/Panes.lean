/-
**The panes.**

Each pane is a border with a title and lines of text inside.  Drawing a pane also settles how far it
is scrolled: a pane that follows the run brings what the run is doing into view, and no pane is
scrolled beyond its last line.

Main definitions:

* `TapeMachine.PaneText`, `TapeMachine.PaneText.widgets` — what a pane is made of, and the widgets
  that draw it;
* `TapeMachine.Drawn` — a pane and how far it is scrolled;
* `TapeMachine.Viewer.drawProgram`, `TapeMachine.Viewer.drawEditor`,
  `TapeMachine.Viewer.drawOutput`, `TapeMachine.Viewer.drawTape` — the four panes;
* `TapeMachine.TapeLine`, `TapeMachine.State.listing` — the lines of the tape pane.
-/

import TapeMachine.Color.Theme
import TapeMachine.Viewer.Basic
import TapeMachine.Viewer.Layout

set_option relaxedAutoImplicit false
set_option autoImplicit false

namespace TapeMachine

open Text

/-- What a pane is made of: a border with a title, and lines of text inside. -/
structure PaneText where
  /-- The title. -/
  title : List Char
  /-- The colour of the border and the title, which tells whether the pane has the focus. -/
  color : Color
  /-- The lines inside. -/
  lines : List Line

/-- The border of a pane. -/
def paneBox (title : List Char) (color : Color) : Box :=
  ⟨some ⟨title, Style.ofForeground color⟩, .all, Style.ofForeground color, Style.plain⟩

/-- The widgets that draw a pane in an area. -/
def PaneText.widgets (p : PaneText) (t : Toolkit) (area : Area) : List Placed :=
  let box := paneBox p.title p.color
  [⟨.box box, area⟩, ⟨.text (.ofLines p.lines), t.inner box area⟩]

/-- A pane and how far it is scrolled. -/
structure Drawn where
  /-- The first line that is shown. -/
  offset : Nat
  /-- The pane. -/
  pane : PaneText

/-- How far a pane of `count` lines is scrolled: to the line of interest when it follows the run,
and in any case not beyond the last line. -/
def settleOffset (follow : Bool) (offset target height count : Nat) : Nat :=
  min (if follow then bringIntoView offset target height else offset) (count - 1)

namespace Viewer

/-- The colour of a border, which depends on the focus. -/
def borderColor (v : Viewer) (theme : Theme) (pane : Pane) (focused unfocused : Theme.Part) :
    Color :=
  theme (if v.focus = pane then focused else unfocused)

/-! ### The program pane -/

/-- The title of the program pane. -/
def programTitle (v : Viewer) : String :=
  match v.filename with
  | some path => s!"Program - {path} ({v.session.program.length} instructions)"
  | none => s!"Program ({v.session.program.length} instructions)"

/-- The instructions in a row of the program pane: each takes two columns. -/
def perRow (width : Nat) : Nat := max (width / 2) 1

/-- The rows that a program takes. -/
def programRows (length perRow : Nat) : Nat := (length + perRow - 1) / perRow

/-- The instructions of a program from one position up to another. -/
def instructionsBetween (p : Program) (start stop : Nat) : Except Breach (List Instruction) :=
  if start ≤ stop ∧ stop ≤ p.length then .ok (p.slice start stop)
  else .error (.sliceOutside start stop p.length)

/-- A row of the program pane: every instruction is followed by a space, and the current one is
marked. -/
def programRow (theme : Theme) (p : Program) (current perRow row : Nat) :
    Except Breach Line :=
  let start := row * perRow
  (instructionsBetween p start (min (start + perRow) p.length)).map fun instructions =>
    Line.ofSpans (instructions.zipIdx.flatMap fun (instruction, i) =>
      let style :=
        if start + i = current then Style.markOf (theme .programCurrent)
        else Style.ofForeground (theme .programToken)
      [⟨[instruction.toChar], style⟩, ⟨[' '], Style.plain⟩])

/-- The program pane. -/
def drawProgram (v : Viewer) (t : Toolkit) (theme : Theme) (area : Area) : Except Breach Drawn :=
  let title := v.programTitle.toList
  let color := v.borderColor theme .program .programTitleFocused .programTitleUnfocused
  let inner := t.inner (paneBox title color) area
  let program := v.session.program
  if program.isEmpty then
    .ok ⟨v.offsets.program, title, color, [Line.raw "<no instructions>".toList]⟩
  else
    let perRow := perRow inner.width
    let rows := programRows program.length perRow
    let current := v.session.state.position
    let offset :=
      settleOffset v.follow v.offsets.program (current / perRow) inner.viewHeight rows
    let shown := min (offset + inner.viewHeight) rows - offset
    ((List.range shown).mapM fun i => programRow theme program current perRow (offset + i)).map
      fun lines => ⟨offset, title, color, lines⟩

/-! ### The editor -/

/-- The title of the editor. -/
def editorTitle : String := "Edit program - Ctrl+S/F5 apply, Esc cancel"

/-- The editor in the area of the program pane, and the place of the cursor. -/
def drawEditor (e : Editor) (t : Toolkit) (theme : Theme) (area : Area) :
    Except Breach (Drawn × (Nat × Nat)) :=
  let title := editorTitle.toList
  let color := theme .programTitleFocused
  let inner := t.inner (paneBox title color) area
  let offset := bringIntoView e.scroll e.row inner.viewHeight
  (sliceList e.lines offset (min (offset + inner.viewHeight) e.lines.length)).map fun shown =>
    (⟨offset, title, color, shown.map Line.raw⟩,
      (inner.x + min e.column (inner.width - 1), inner.y + (e.row - offset)))

/-! ### The output pane -/

/-- A line of the output pane; the latest event is bold. -/
def outputLine (theme : Theme) (display : Display) (log : Array Event) (i : Nat) :
    Except Breach Line :=
  match log[i]? with
  | none => .error (.sliceOutside i (i + 1) log.size)
  | some event =>
    let color := match event with
      | .value _ => theme .outputValue
      | .error _ => theme .outputError
    let style := { Style.ofForeground color with bold := i + 1 = log.size }
    .ok (Line.ofSpans [⟨event.line display, style⟩])

/-- The output pane. -/
def drawOutput (v : Viewer) (t : Toolkit) (theme : Theme) (area : Area) : Except Breach Drawn :=
  let title := "Output".toList
  let color := v.borderColor theme .output .outputTitleFocused .outputTitleUnfocused
  let inner := t.inner (paneBox title color) area
  let log := v.session.state.log
  if log.isEmpty then
    .ok ⟨v.offsets.output, title, color, [Line.raw "<no output yet>".toList]⟩
  else
    let offset :=
      settleOffset v.follow v.offsets.output (log.size - 1) inner.viewHeight log.size
    let shown := min (offset + inner.viewHeight) log.size - offset
    ((List.range shown).mapM fun i => outputLine theme v.display log (offset + i)).map
      fun lines => ⟨offset, title, color, lines⟩

end Viewer

/-! ### The tape pane -/

/-- A line of the tape pane. -/
inductive TapeLine where
  /-- A cell. -/
  | cell (index : Nat)
  /-- The end of a group of cells. -/
  | separator
deriving DecidableEq

namespace State

/-- A separator follows every group of this many cells. -/
def groupSize : Nat := 8

/-- The lines of the tape pane: the cells of the window, with a separator after every group. -/
def listing (s : State) : List TapeLine :=
  s.windowCells.flatMap fun i =>
    if i % groupSize = groupSize - 1 then [.cell i, .separator] else [.cell i]

/-- The line of the current cell. -/
def currentLine (s : State) : Nat := (s.listing.findIdx? (· = .cell s.pointer)).getD 0

end State

namespace Viewer

/-- The title of the tape pane. -/
def tapeTitle (v : Viewer) : String :=
  let mode := match v.display with
    | .binary => "bin"
    | .ascii => "ascii"
  s!"Tape ({v.session.state.tape.capacity} cells, {mode})"

/-- The value of a cell, as bits or as a character. -/
def valueText (display : Display) (value : UInt8) : List Char :=
  match display with
  | .binary => cellBits value
  | .ascii => padLeft 4 (cellAscii value)

/-- The style of the value of a cell. -/
def valueStyle (theme : Theme) (isCurrent : Bool) (value : UInt8) : Style :=
  if isCurrent then Style.markOf (theme .tapeCellPointer)
  else if value = 0 then Style.ofForeground (theme .tapeCellEmpty)
  else Style.ofForeground (theme .tapeCellNonzero)

/-- A line of the tape pane as it is written. -/
def tapeLine (theme : Theme) (display : Display) (s : State) (width : Nat) : TapeLine → Line
  | .separator => Line.styled (List.replicate width '─') (Style.ofForeground (theme .tapeIndex))
  | .cell i =>
    let value := (s.tape.get? i).getD 0
    let margin := Style.ofForeground (theme .tapeIndex)
    Line.ofSpans
      [⟨padLeft 5 (decimal i) ++ [' '], margin⟩,
        ⟨valueText display value, valueStyle theme (i = s.pointer) value⟩,
        ⟨' ' :: padLeft 3 (decimal value.toNat), margin⟩]

/-- The tape pane. -/
def drawTape (v : Viewer) (t : Toolkit) (theme : Theme) (area : Area) : Drawn :=
  let title := v.tapeTitle.toList
  let color := v.borderColor theme .tape .tapeBorderFocused .tapeBorderUnfocused
  let inner := t.inner (paneBox title color) area
  let s := v.session.state
  let listing := s.listing
  let offset :=
    settleOffset v.follow v.offsets.tape s.currentLine inner.viewHeight listing.length
  let shown := (listing.drop offset).take inner.viewHeight
  ⟨offset, title, color, shown.map (tapeLine theme v.display s inner.width)⟩

end Viewer

end TapeMachine
