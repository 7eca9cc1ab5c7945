/-
**Characters behind a backslash.**

A backslash gives the character behind it another meaning: signs that mean something else stand for
themselves, some letters stand for control characters, and others for a family of characters, for
the boundary of a word, for an end of the text, or for the character with a code.

Main definitions:

* `TapeMachine.Pattern.Atom` — the smallest part of a pattern;
* `TapeMachine.Pattern.readEscape` — the atom that the characters behind a backslash spell;
* `TapeMachine.Pattern.readAtom` — the atom that a text begins with.
-/

import TapeMachine.Pattern.Mode
import TapeMachine.Text.Numeral

set_option relaxedAutoImplicit false
set_option autoImplicit false

namespace TapeMachine.Pattern

open Text

/-- The smallest part of a pattern. -/
inductive Atom where
  /-- A character that stands for itself. -/
  | literal (l : Literal)
  /-- The digits, the blanks or the characters of words, or all the others. -/
  | family (negated : Bool)
  /-- The beginning or the end of a word, or no such place. -/
  | boundary
  /-- An end of the text. -/
  | edge
deriving DecidableEq

namespace Atom

/-- The atom of a character that stands for itself. -/
def ofChar (c : Char) : Atom := literal (Literal.ofChar c)

/-- The literal of an atom, if it is one. -/
def literal? : Atom → Option Literal
  | literal l => some l
  | family _ | boundary | edge => none

/-- The mode accepts the atom. -/
def isAllowed (m : Mode) : Atom → Bool
  | literal l => m.allows l
  | family negated => m.allowsFamily negated
  | boundary | edge => true

/-- The mode accepts the atom as a member of a class. -/
def isAllowedMember (m : Mode) : Atom → Bool
  | literal l => m.allowsMember l
  | family negated => m.allowsFamily negated
  | boundary | edge => false

end Atom

/-- The number that hexadecimal digits continue `value` to, and what follows them. -/
def readHexDigits (m : Mode) : Nat → Nat → List Char → Option (Nat × List Char)
  | 0, value, t => some (value, t)
  | count + 1, value, t =>
    match m.skipBlanks t with
    | [] => none
    | c :: rest =>
      match hexDigit? c with
      | none => none
      | some d => readHexDigits m count (16 * value + d) rest

/-- The character whose code has the given number of hexadecimal digits. -/
def readCode (m : Mode) (digits : Nat) (t : List Char) : Option (Atom × List Char) :=
  match readHexDigits m digits 0 t with
  | none => none
  | some (value, rest) =>
    if value.isValidChar then some (.literal ⟨Char.ofNat value, digits = 2⟩, rest) else none

/-- A character may stand for itself behind a backslash. -/
def isEscapable (c : Char) : Bool :=
  c.toNat < 0x80 && !c.isAlphanum && c ≠ '<' && c ≠ '>'

/-- The atom that the characters behind a backslash spell, and what follows it.  No property of
characters can be asked for by name. -/
def readEscape (m : Mode) : List Char → Option (Atom × List Char)
  | [] => none
  | c :: t =>
    match c with
    | 'x' => readCode m 2 t
    | 'u' => readCode m 4 t
    | 'U' => readCode m 8 t
    | 'd' | 's' | 'w' => some (.family false, t)
    | 'D' | 'S' | 'W' => some (.family true, t)
    | 'a' => some (Atom.ofChar '\x07', t)
    | 't' => some (Atom.ofChar '\t', t)
    | 'n' => some (Atom.ofChar '\n', t)
    | 'v' => some (Atom.ofChar '\x0b', t)
    | 'f' => some (Atom.ofChar '\x0c', t)
    | 'r' => some (Atom.ofChar '\r', t)
    | 'A' | 'z' => some (.edge, t)
    | 'b' | 'B' | '<' | '>' => some (.boundary, t)
    | c => if isEscapable c then some (Atom.ofChar c, t) else none

/-- The atom that a text begins with, and what follows it. -/
def readAtom (m : Mode) : List Char → Option (Atom × List Char)
  | [] => none
  | c :: t => if c = '\\' then readEscape m t else some (Atom.ofChar c, t)

end TapeMachine.Pattern
