/-
**Modes of a pattern.**

A pattern is a text that describes other texts, in the common notation of groups, repetitions and
classes of characters.  Switches in a pattern change how the part behind them is read: blanks and
comments may be passed over, the case of letters may not count, and the pattern may be about bytes
instead of the characters of Unicode.

Properties of characters and pairs of letters are known within ASCII only.  So a class such as the
digits, and letters whose case does not count, are accepted in patterns about bytes alone.  Such a
pattern has to describe characters all the same, so it may not speak of bytes outside of ASCII.

Main definitions:

* `TapeMachine.Pattern.Mode` — how a part of a pattern is read;
* `TapeMachine.Pattern.Mode.skipBlanks` — passing over blanks and comments;
* `TapeMachine.Pattern.Literal`, `TapeMachine.Pattern.Mode.allows`,
  `TapeMachine.Pattern.Mode.allowsMember`, `TapeMachine.Pattern.Mode.allowsFamily`,
  `TapeMachine.Pattern.Mode.allowsNamed` — what a mode accepts;
* `TapeMachine.Pattern.readSwitches` — the mode that switches lead to.
-/

import TapeMachine.Text.Blank

set_option relaxedAutoImplicit false
set_option autoImplicit false

namespace TapeMachine.Pattern

open Text

/-- How a part of a pattern is read. -/
structure Mode where
  /-- Blanks and comments are passed over. -/
  spaced : Bool
  /-- The case of letters does not count. -/
  caseless : Bool
  /-- The pattern is about the characters of Unicode, and not about bytes. -/
  wide : Bool
deriving DecidableEq

/-- A character that stands for itself. -/
structure Literal where
  /-- The character. -/
  code : Char
  /-- It was written as the two hexadecimal digits of a byte. -/
  isByte : Bool
deriving DecidableEq

/-- The literal of a character that was written as it is. -/
def Literal.ofChar (c : Char) : Literal := ⟨c, false⟩

namespace Mode

/-- The mode at the beginning of a pattern. -/
def standard : Mode := ⟨false, false, true⟩

/-- The text behind its blanks and comments.  A comment goes from a number sign to the end of the
line. -/
def skipSpace (inComment : Bool) : List Char → List Char
  | [] => []
  | c :: t =>
    if inComment then skipSpace (c ≠ '\n') t
    else if isBlank c then skipSpace false t
    else if c = '#' then skipSpace true t
    else c :: t

/-- The text behind what the mode passes over. -/
def skipBlanks (m : Mode) (t : List Char) : List Char := if m.spaced then skipSpace false t else t

/-- The next character behind what the mode passes over.  Of a comment only the sign at its
beginning is passed over here. -/
def peek? (m : Mode) (t : List Char) : Option Char :=
  if m.spaced then
    match trimStart t with
    | '#' :: comment => (trimStart comment).head?
    | rest => rest.head?
  else t.head?

/-- The mode with a switch turned on or off, if there is such a switch. -/
def switch? (m : Mode) (on : Bool) (letter : Char) : Option Mode :=
  match letter with
  | 'x' => some { m with spaced := on }
  | 'i' => some { m with caseless := on }
  | 'u' => some { m with wide := on }
  | 'm' | 's' | 'U' | 'R' => some m
  | _ => none

/-- The mode accepts a literal. -/
def allows (m : Mode) (l : Literal) : Bool :=
  if m.wide then !m.caseless else !l.isByte || l.code.toNat < 0x80

/-- The mode accepts a literal as a member of a class. -/
def allowsMember (m : Mode) (l : Literal) : Bool :=
  if m.wide then !m.caseless else l.code.toNat < 0x80

/-- The mode accepts a family of characters, such as the digits or all but the digits. -/
def allowsFamily (m : Mode) (negated : Bool) : Bool := !m.wide && !negated

/-- The mode accepts a named set of characters of ASCII as a member of a class. -/
def allowsNamed (m : Mode) (negated : Bool) : Bool := if m.wide then !m.caseless else !negated

end Mode

/-- What stands at the beginning of a group, up to the colon or the closing parenthesis. -/
structure Switches where
  /-- The mode that the switches lead to. -/
  mode : Mode
  /-- There are none. -/
  areNone : Bool
  /-- The character that ends them. -/
  mark : Char
  /-- What follows that character. -/
  rest : List Char

/-- The switches at the beginning of a text, `seen` being those that were read already.  None may
come twice; behind a minus sign, which may not be the last, they are turned off. -/
def readSwitches (m : Mode) (seen : List Char) : List Char → Option Switches
  | [] => none
  | c :: t =>
    if c = ':' ∨ c = ')' then
      if seen.head? = some '-' then none else some ⟨m, seen.isEmpty, c, t⟩
    else if seen.contains c then none
    else if c = '-' then readSwitches m (c :: seen) t
    else
      match m.switch? (!seen.contains '-') c with
      | none => none
      | some m => readSwitches m (c :: seen) t

end TapeMachine.Pattern
