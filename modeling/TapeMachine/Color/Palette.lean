/-
**Styles for printed lines.**

Lines printed on a terminal are coloured with control sequences, one style for each kind of text.
When colour is off every style leaves its text alone.

Main definitions:

* `TapeMachine.Palette.Role` — the kinds of text;
* `TapeMachine.Palette.paint` — a text in the style of its kind.
-/

set_option relaxedAutoImplicit false
set_option autoImplicit false

namespace TapeMachine.Palette

/-- A kind of printed text. -/
inductive Role where
  | value
  | error
  | dim
  | pointer
  | instruction
  | action
deriving DecidableEq

/-- The red, green and blue of a style, and whether its text is bold. -/
structure Ink where
  /-- The share of red. -/
  red : Nat
  /-- The share of green. -/
  green : Nat
  /-- The share of blue. -/
  blue : Nat
  /-- The text is bold. -/
  bold : Bool
deriving DecidableEq

/-- The style of each kind of text. -/
def ink : Role → Ink
  | .value => ⟨205, 214, 244, false⟩
  | .error => ⟨243, 139, 168, true⟩
  | .dim => ⟨108, 112, 134, false⟩
  | .pointer => ⟨137, 180, 250, false⟩
  | .instruction => ⟨249, 226, 175, true⟩
  | .action => ⟨148, 226, 213, false⟩

/-- The control sequence that switches a style on. -/
def Ink.start (i : Ink) : String :=
  let weight := if i.bold then "1;" else ""
  s!"\x1B[{weight}38;2;{i.red};{i.green};{i.blue}m"

/-- The control sequence that switches every style off. -/
def finish : String := "\x1B[0m"

/-- A text in the style of its kind, when colour is on. -/
def paint (enabled : Bool) (role : Role) (text : String) : String :=
  if enabled then (ink role).start ++ text ++ finish else text

end TapeMachine.Palette
