/-
**Themes.**

A theme gives a colour to each part of the screen.  The section `colors` of a configuration text
may give any part another colour than its default; an entry that is no colour is passed over.

Main definitions:

* `TapeMachine.Theme.Part` — the parts of the screen, with their keys and default colours;
* `TapeMachine.Theme` — a colour for each part;
* `TapeMachine.Theme.read` — the theme of a configuration text.

Main results:

* `TapeMachine.Theme.mem_parts` — the list of parts is complete.
-/

import TapeMachine.Color.Reading
import TapeMachine.Config.Sections

set_option relaxedAutoImplicit false
set_option autoImplicit false

namespace TapeMachine

namespace Theme

/-- A part of the screen that has a colour of its own. -/
inductive Part where
  | programTitleFocused
  | programTitleUnfocused
  | programToken
  | programCurrent
  | outputTitleFocused
  | outputTitleUnfocused
  | outputValue
  | outputError
  | tapeBorderFocused
  | tapeBorderUnfocused
  | tapeIndex
  | tapeCellEmpty
  | tapeCellNonzero
  | tapeCellPointer
  | statusText
  | statusRunning
  | statusDone
  | dialogTitle
  | dialogBackground
  | dialogText
  | helpHint
deriving DecidableEq

/-- All parts, in the order in which their entries are looked up. -/
def parts : List Part :=
  [.programTitleFocused, .programTitleUnfocused, .programToken, .programCurrent,
    .outputTitleFocused, .outputTitleUnfocused, .outputValue, .outputError,
    .tapeBorderFocused, .tapeBorderUnfocused, .tapeIndex, .tapeCellEmpty, .tapeCellNonzero,
    .tapeCellPointer, .statusText, .statusRunning, .statusDone, .dialogTitle, .dialogBackground,
    .dialogText, .helpHint]

/-- The key under which a part is found in a configuration text. -/
def Part.key : Part → String
  | programTitleFocused => "program_title_focused"
  | programTitleUnfocused => "program_title_unfocused"
  | programToken => "program_token"
  | programCurrent => "program_current"
  | outputTitleFocused => "output_title_focused"
  | outputTitleUnfocused => "output_title_unfocused"
  | outputValue => "output_value"
  | outputError => "output_error"
  | tapeBorderFocused => "tape_border_focused"
  | tapeBorderUnfocused => "tape_border_unfocused"
  | tapeIndex => "tape_index"
  | tapeCellEmpty => "tape_cell_empty"
  | tapeCellNonzero => "tape_cell_nonzero"
  | tapeCellPointer => "tape_cell_pointer"
  | statusText => "status_text"
  | statusRunning => "status_running"
  | statusDone => "status_done"
  | dialogTitle => "dialog_title"
  | dialogBackground => "dialog_bg"
  | dialogText => "dialog_text"
  | helpHint => "help_hint"

/-- The colour of a part when nothing else is asked for. -/
def Part.default : Part → Color
  | programTitleFocused | outputTitleFocused | tapeBorderFocused => .cyan
  | programTitleUnfocused | outputTitleUnfocused | tapeBorderUnfocused | helpHint => .gray
  | programToken | outputValue | tapeCellNonzero | statusText | dialogTitle | dialogText => .white
  | programCurrent | tapeCellPointer => .yellow
  | outputError => .red
  | tapeIndex | tapeCellEmpty => .darkGray
  | statusRunning => .green
  | statusDone => .magenta
  | dialogBackground => .black

end Theme

/-- A colour for each part of the screen. -/
abbrev Theme := Theme.Part → Color

namespace Theme

/-- The theme when nothing else is asked for. -/
def standard : Theme := Part.default

/-- The name of the section with the colours. -/
def colorsSection : String := "colors"

/-- The colour that some assignments give to a part. -/
def colorOf (entries : List Config.Assignment) (part : Part) : Except Breach Color :=
  match Config.value? entries colorsSection.toList part.key.toList with
  | none => .ok part.default
  | some value => (Color.read value).map fun color => color.getD part.default

/-- The colours that some assignments give to the listed parts. -/
def colorsOf (entries : List Config.Assignment) : List Part → Except Breach (List (Part × Color))
  | [] => .ok []
  | part :: rest =>
    match colorOf entries part with
    | .error b => .error b
    | .ok color =>
      match colorsOf entries rest with
      | .error b => .error b
      | .ok chosen => .ok ((part, color) :: chosen)

/-- The theme of a configuration text. -/
def read (content : String) : Except Breach Theme :=
  (colorsOf (Config.assignments content.toList) parts).map fun chosen part =>
    (chosen.lookup part).getD part.default

/-- **The list of parts is complete.** -/
theorem mem_parts (part : Part) : part ∈ parts := by
  cases part <;> decide

end Theme

end TapeMachine
