/-
**The viewer.**

The viewer shows a session in three panes and lets its user step it, run it, look around in it, and
edit the program.  Everything it knows beside the session is in its own state: which pane has the
focus, how far each pane is scrolled, whether the panes follow the run, the editor while it is open,
and the message at the bottom.

Main definitions:

* `TapeMachine.Viewer`, `TapeMachine.Viewer.ofSession` — the viewer, and the one a session opens;
* `TapeMachine.Viewer.press` — what a key does, and whether it asks to quit;
* `TapeMachine.Viewer.onTick` — what the passing of time does.

Main results:

* `TapeMachine.Viewer.press_editor` — while the editor is open every key goes to it, and none asks
  to quit.
-/

import TapeMachine.Session
import TapeMachine.Text.Numeral
import TapeMachine.Viewer.Cells
import TapeMachine.Viewer.Editor

set_option relaxedAutoImplicit false
set_option autoImplicit false

namespace TapeMachine

/-- A pane of the screen. -/
inductive Pane where
  | program
  | output
  | tape
deriving DecidableEq, Inhabited

namespace Pane

/-- The pane that gets the focus after this one. -/
def next : Pane → Pane
  | program => output
  | output => tape
  | tape => program

/-- The pane that had the focus before this one. -/
def previous : Pane → Pane
  | program => tape
  | output => program
  | tape => output

end Pane

/-- The first line shown in each pane. -/
structure Offsets where
  /-- The first row of the program pane. -/
  program : Nat
  /-- The first event of the output pane. -/
  output : Nat
  /-- The first line of the tape pane. -/
  tape : Nat
deriving DecidableEq, Inhabited

namespace Offsets

/-- Every pane is at its beginning. -/
def zero : Offsets := ⟨0, 0, 0⟩

/-- The offsets with that of one pane changed. -/
def modify (o : Offsets) (f : Nat → Nat) : Pane → Offsets
  | .program => { o with program := f o.program }
  | .output => { o with output := f o.output }
  | .tape => { o with tape := f o.tape }

/-- An offset that moves down stays a number of 64 bits. -/
def moveDown (n offset : Nat) : Nat := min (offset + n) (Text.word64 - 1)

/-- An offset that moves up stops at the beginning. -/
def moveUp (n offset : Nat) : Nat := offset - n

end Offsets

/-- What the viewer knows. -/
structure Viewer where
  /-- The session that is shown. -/
  session : Session
  /-- The source text of its program. -/
  source : String
  /-- The file the source text came from. -/
  filename : Option String
  /-- The pane that has the focus. -/
  focus : Pane
  /-- How values are shown. -/
  display : Display
  /-- The panes are scrolled so that they show what the run is doing. -/
  follow : Bool
  /-- How far the panes are scrolled. -/
  offsets : Offsets
  /-- The editor, while it is open. -/
  editor : Option Editor
  /-- The help text is shown. -/
  showHelp : Bool
  /-- The message at the bottom. -/
  message : String
  /-- The clock drove the run when it was last looked at. -/
  wasRunning : Bool

namespace Viewer

/-- The viewer that a session opens. -/
def ofSession (session : Session) (source : String) (filename : Option String) : Viewer where
  session := session
  source := source
  filename := filename
  focus := .program
  display := .binary
  follow := true
  offsets := Offsets.zero
  editor := none
  showHelp := false
  message := "Ready"
  wasRunning := false

/-- The message when a run that is over is asked to go on. -/
def finishedMessage : String := "Program finished; reset to run again"

/-- The message that tells what a step did. -/
def stepMessage : Outcome → String
  | .frozen => finishedMessage
  | .applied _ _ _ true => "Done"
  | .applied position instruction effect false =>
    s!"{position}: {instruction.toChar}  {effect.text}"
  | .faulted u => s!"Halted: {u.message}"

/-- The message that tells that the clock drives the run. -/
def runningMessage : Cadence → String
  | .normal => "Running..."
  | .fast => "Running (fast)..."

/-! ### The commands -/

/-- Take one step. -/
def step (v : Viewer) : Except Breach Viewer :=
  match v.session.step with
  | .error b => .error b
  | .ok (session, outcome) =>
    .ok { v with session := session, follow := true, message := stepMessage outcome }

/-- Let the clock drive the run. -/
def start (v : Viewer) (cadence : Cadence) (now : Nat) : Viewer :=
  let session := v.session.start cadence now
  { v with
    session := session
    follow := true
    message := if session.isRunning then runningMessage cadence else finishedMessage
    wasRunning := session.isRunning }

/-- Do not let the clock drive the run any more. -/
def pause (v : Viewer) : Viewer :=
  { v with
    session := v.session.pause
    message := if v.session.isRunning then "Paused" else v.message
    wasRunning := false }

/-- Show the run from its beginning. -/
def rewind (v : Viewer) : Viewer :=
  { v with follow := true, offsets := Offsets.zero, wasRunning := false }

/-- Start the run over. -/
def reset (v : Viewer) : Viewer :=
  { { v with session := v.session.reset }.rewind with message := "Reset" }

/-- Open the editor on the source text. -/
def edit (v : Viewer) : Viewer :=
  { v.pause with editor := some (Editor.ofSource v.source), message := "Editing" }

/-- Take up the text of the editor as the program, and close the editor. -/
def apply (v : Viewer) (e : Editor) : Viewer :=
  let source := String.ofList e.text
  let session := v.session.replace source
  { { v with editor := none, source := source, session := session }.rewind with
    message := s!"Loaded {session.program.length} instructions" }

/-- Close the editor and forget its text. -/
def cancel (v : Viewer) : Viewer := { v with editor := none, message := "Edit cancelled" }

/-- Scroll the pane that has the focus, and stop following the run. -/
def scrollFocused (v : Viewer) (f : Nat → Nat) : Viewer :=
  { v with follow := false, offsets := v.offsets.modify f v.focus }

/-! ### Keys and time -/

/-- A key press applies the text of the editor. -/
def applies (press : KeyPress) : Bool :=
  press.key = .function 5 || (press.modifiers.control && press.key = .char 's')

/-- What a key does while the editor is open. -/
def pressEditor (v : Viewer) (e : Editor) (press : KeyPress) : Except Breach Viewer :=
  if applies press then .ok (v.apply e)
  else if press.key = .escape then .ok v.cancel
  else (e.press press).map fun e => { v with editor := some e }

/-- What a key does to the viewer while the editor is closed and the control key is not held down,
and whether it asks to quit. -/
def pressCommand (v : Viewer) (key : Key) (now : Nat) : Except Breach (Viewer × Bool) :=
  match key with
  | .function 1 | .char '?' => .ok ({ v with showHelp := !v.showHelp }, false)
  | .escape => if v.showHelp then .ok ({ v with showHelp := false }, false) else .ok (v, true)
  | .char 'q' => .ok (v, true)
  | .char 's' | .right => v.step.map fun t => (t, false)
  | .char 'r' | .function 5 => .ok (v.start .normal now, false)
  | .char 'f' => .ok (v.start .fast now, false)
  | .char 'p' | .char ' ' => .ok (v.pause, false)
  | .char 'x' => .ok (v.reset, false)
  | .char 'a' => .ok ({ v with display := v.display.toggle }, false)
  | .char 'e' => .ok (v.edit, false)
  | .char 'c' => .ok ({ v with follow := true }, false)
  | .tab => .ok ({ v with focus := v.focus.next }, false)
  | .backTab => .ok ({ v with focus := v.focus.previous }, false)
  | .up => .ok (v.scrollFocused (Offsets.moveUp 1), false)
  | .down => .ok (v.scrollFocused (Offsets.moveDown 1), false)
  | .pageUp => .ok (v.scrollFocused (Offsets.moveUp 10), false)
  | .pageDown => .ok (v.scrollFocused (Offsets.moveDown 10), false)
  | _ => .ok (v, false)

/-- What a key does at the time `now`, and whether it asks to quit. -/
def press (v : Viewer) (press : KeyPress) (now : Nat) : Except Breach (Viewer × Bool) :=
  match v.editor with
  | some e => (v.pressEditor e press).map fun t => (t, false)
  | none =>
    if press.modifiers.control then .ok (v, press.key = .char 'q' || press.key = .char 'c')
    else v.pressCommand press.key now

/-- Let the clock drive the run up to `now`, and tell when the run has come to rest by itself. -/
def onTick (v : Viewer) (now : Nat) : Except Breach Viewer :=
  match v.session.tick now with
  | .error b => .error b
  | .ok (session, applied) =>
    .ok { v with
      session := session
      follow := v.follow || decide (0 < applied)
      message :=
        if v.wasRunning && !session.isRunning then session.state.restMessage else v.message
      wasRunning := session.isRunning }

/-- **While the editor is open every key goes to it**, and none asks to quit. -/
theorem press_editor {v : Viewer} {e : Editor} (h : v.editor = some e) (k : KeyPress) (now : Nat) :
    v.press k now = (v.pressEditor e k).map fun t => (t, false) := by
  simp [press, h]

end Viewer

end TapeMachine
