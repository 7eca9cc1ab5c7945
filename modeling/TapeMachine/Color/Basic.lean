/-
**Colours.**

A colour is one of the named colours of a terminal or a mixture of red, green and blue.

Main definitions:

* `TapeMachine.Color` — the colours;
* `TapeMachine.Color.text` — how a colour is shown.
-/

set_option relaxedAutoImplicit false
set_option autoImplicit false

namespace TapeMachine

/-- A colour of a terminal. -/
inductive Color where
  /-- Whatever the terminal uses. -/
  | reset
  | black
  | red
  | green
  | yellow
  | blue
  | magenta
  | cyan
  | gray
  | darkGray
  | lightRed
  | lightGreen
  | lightBlue
  | lightMagenta
  | lightCyan
  | white
  /-- A mixture. -/
  | rgb (red green blue : UInt8)
deriving DecidableEq, Inhabited

namespace Color

/-- A byte as two hexadecimal digits in capitals. -/
def hexByte (b : UInt8) : List Char :=
  [(Nat.digitChar (b.toNat / 16)).toUpper, (Nat.digitChar (b.toNat % 16)).toUpper]

/-- The name of a colour, or a number sign and the three bytes of a mixture. -/
def text : Color → String
  | reset => "Reset"
  | black => "Black"
  | red => "Red"
  | green => "Green"
  | yellow => "Yellow"
  | blue => "Blue"
  | magenta => "Magenta"
  | cyan => "Cyan"
  | gray => "Gray"
  | darkGray => "DarkGray"
  | lightRed => "LightRed"
  | lightGreen => "LightGreen"
  | lightBlue => "LightBlue"
  | lightMagenta => "LightMagenta"
  | lightCyan => "LightCyan"
  | white => "White"
  | rgb r g b => String.ofList ('#' :: hexByte r ++ hexByte g ++ hexByte b)

end Color

end TapeMachine
