/-
**Texts with separators.**

A character that separates cuts a text into parts, one more than it occurs.

Main definitions:

* `TapeMachine.Text.split` — the parts of a text.
-/

set_option relaxedAutoImplicit false
set_option autoImplicit false

namespace TapeMachine.Text

/-- The parts of a text between separators, `part` being what was read of the first one, in
reverse. -/
def splitFrom (separator : Char) (part : List Char) : List Char → List (List Char)
  | [] => [part.reverse]
  | c :: t =>
    if c = separator then part.reverse :: splitFrom separator [] t
    else splitFrom separator (c :: part) t

/-- The parts of a text between separators. -/
def split (separator : Char) (t : List Char) : List (List Char) := splitFrom separator [] t

end TapeMachine.Text
