/-
**Reading colours.**

A colour is written by its name, in any case, or as a number sign followed by three pairs of
hexadecimal digits.  The pairs are cut from the six bytes after the number sign, so a character of
several bytes may lie across a cut; and a pair is read as a number, so its first character may be a
plus sign.

Main definitions:

* `TapeMachine.Color.ofName?` — the named colours;
* `TapeMachine.Color.ofPairs?` — a mixture from its three pairs of digits;
* `TapeMachine.Color.read` — a colour from its written form.
-/

import TapeMachine.Color.Basic
import TapeMachine.Text.Blank
import TapeMachine.Text.Numeral
import TapeMachine.Text.Utf8

set_option relaxedAutoImplicit false
set_option autoImplicit false

namespace TapeMachine.Color

open Text

/-- The colour with a name in small letters. -/
def named? (name : String) : Option Color :=
  match name with
  | "black" => some black
  | "red" => some red
  | "green" => some green
  | "yellow" => some yellow
  | "blue" => some blue
  | "magenta" => some magenta
  | "cyan" => some cyan
  | "gray" | "grey" => some gray
  | "darkgray" | "dark_grey" | "darkgrey" | "dark_gray" => some darkGray
  | "lightred" | "light_red" => some lightRed
  | "lightgreen" | "light_green" => some lightGreen
  | "lightblue" | "light_blue" => some lightBlue
  | "lightmagenta" | "light_magenta" => some lightMagenta
  | "lightcyan" | "light_cyan" => some lightCyan
  | "white" => some white
  | _ => none

/-- The colour with a name, in letters of any case. -/
def ofName? (name : List Char) : Option Color := named? (String.ofList (name.map Char.toLower))

/-- The byte that a pair of characters spells: two hexadecimal digits, or a plus sign and one. -/
def hexPair? : List Char → Option UInt8
  | [a, b] => do
    let high ← if a = '+' then some 0 else hexDigit? a
    let low ← hexDigit? b
    return UInt8.ofNat (16 * high + low)
  | _ => none

/-- The mixture of three bytes, each spelt by a pair of characters. -/
def ofPairs? (r g b : List Char) : Option Color := do
  let red ← hexPair? r
  let green ← hexPair? g
  let blue ← hexPair? b
  return rgb red green blue

/-- The mixture that a code of six bytes spells; codes of another length spell none. -/
def ofCode (code : List Char) : Except Breach (Option Color) := do
  if byteLength code = 6 then
    let (r, rest) ← splitBytes 2 code
    let (g, b) ← splitBytes 2 rest
    return ofPairs? r g b
  else return none

/-- The colour that a text spells, blanks at its ends aside. -/
def read (value : List Char) : Except Breach (Option Color) :=
  match trim value with
  | '#' :: code => ofCode code
  | name => .ok (ofName? name)

end TapeMachine.Color
