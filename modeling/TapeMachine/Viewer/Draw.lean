/-
**Drawing the viewer.**

A frame shows the program pane, or the editor in its place, the output pane, the tape pane and the
status line, and help on top of them when it is open.  Drawing changes nothing of the viewer but how
far its panes are scrolled.

Main definitions:

* `TapeMachine.Viewer.statusLine` — the line at the bottom;
* `TapeMachine.Viewer.helpText` — the help text;
* `TapeMachine.Viewer.draw` — one frame.
-/

import TapeMachine.Viewer.Panes

set_option relaxedAutoImplicit false
set_option autoImplicit false

namespace TapeMachine

namespace Viewer

/-! ### The status line -/

/-- The state of the run in a word or two, and the part of the theme that gives its colour. -/
def runStatus (s : Session) : String × Theme.Part :=
  match s.scheduler.cadence? with
  | some .normal => ("Running", .statusRunning)
  | some .fast => ("Running (fast)", .statusRunning)
  | none => if s.state.done then ("Done", .statusDone) else ("Paused", .statusText)

/-- The numbers of the status line. -/
def statusNumbers (s : Session) : String :=
  s!" IP: {s.state.position}/{s.program.length} | Ptr: {s.state.pointer} | " ++
    s!"Cell: {s.state.cell.toNat} | Steps: {s.taken} | F1 for Help "

/-- The status line. -/
def statusLine (v : Viewer) (theme : Theme) : Line :=
  let (word, part) := runStatus v.session
  Line.ofSpans
    [⟨s!" {word} ".toList, Style.boldOf (theme part)⟩,
      ⟨['|'], Style.ofForeground (theme .statusText)⟩,
      ⟨(statusNumbers v.session).toList, Style.ofForeground (theme .statusText)⟩,
      ⟨s!"| {v.message}".toList, Style.ofForeground (theme .helpHint)⟩]

/-- The status line, below a rule. -/
def drawStatus (v : Viewer) (theme : Theme) (area : Area) : List Placed :=
  [⟨.box (Box.bare .top), area⟩,
    ⟨.text (.ofLines [v.statusLine theme]), Layout.statusTextArea area⟩]

/-! ### Help -/

/-- The help text. -/
def helpText : List String :=
  ["s/Right: Step one instruction",
    "r/F5: Run   f: Run (fast)   p/Space: Pause   x: Reset",
    "a: Toggle ASCII / binary cells",
    "e: Edit program (Ctrl+S/F5 apply, Esc cancel)",
    "Tab/Shift+Tab: Switch pane focus",
    "Up/Down/PageUp/PageDown: Scroll focused pane (c: follow again)",
    "F1/?: Toggle this help",
    "q/Esc/Ctrl+Q: Quit"]

/-- Help, on top of everything else. -/
def drawHelp (theme : Theme) (screen : Area) : List Placed :=
  let area := Layout.helpArea screen
  let title : Span := ⟨"Help".toList, Style.ofForeground (theme .dialogTitle)⟩
  let lines := helpText.map fun s => Line.raw s.toList
  [⟨.clear, area⟩,
    ⟨.box ⟨some title, .all, Style.plain, Style.ofBackground (theme .dialogBackground)⟩, area⟩,
    ⟨.text ⟨lines, Style.ofForeground (theme .dialogText), true⟩, Layout.helpTextArea area⟩]

/-! ### The frame -/

/-- The pane in the upper left corner: the viewer after drawing it, the pane, and the cursor. -/
def drawMain (v : Viewer) (t : Toolkit) (theme : Theme) (area : Area) :
    Except Breach (Viewer × PaneText × Option (Nat × Nat)) :=
  match v.editor with
  | some e =>
    (drawEditor e t theme area).map fun (drawn, cursor) =>
      ({ v with editor := some { e with scroll := drawn.offset } }, drawn.pane, some cursor)
  | none =>
    (v.drawProgram t theme area).map fun drawn =>
      ({ v with offsets := { v.offsets with program := drawn.offset } }, drawn.pane, none)

/-- The widgets of a frame, in the order in which they are drawn. -/
def frameWidgets (v : Viewer) (t : Toolkit) (theme : Theme) (screen : Area) (layout : Layout)
    (main output tape : PaneText) : List Placed :=
  main.widgets t layout.program ++ output.widgets t layout.output ++ tape.widgets t layout.tape ++
    v.drawStatus theme layout.status ++ if v.showHelp then drawHelp theme screen else []

/-- One frame on a screen of the given size, and the viewer after drawing it. -/
def draw (v : Viewer) (t : Toolkit) (theme : Theme) (width height : Nat) :
    Except Breach (Viewer × t.Frame) := do
  let screen := Area.ofSize width height
  let layout ← Layout.ofArea t screen
  let (v₁, main, cursor) ← v.drawMain t theme layout.program
  let output ← v₁.drawOutput t theme layout.output
  let tape := v₁.drawTape t theme layout.tape
  let v₂ := { v₁ with offsets := { v₁.offsets with output := output.offset, tape := tape.offset } }
  let frame ← t.renderAll (t.blank width height)
    (v₂.frameWidgets t theme screen layout main output.pane tape.pane)
  return (v₂, t.showCursor cursor frame)

end Viewer

end TapeMachine
