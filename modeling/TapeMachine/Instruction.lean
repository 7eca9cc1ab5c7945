/-
**The eight instructions of the tape language.**

A program is written with eight characters: two move along the tape, two change the cell under
the pointer, one emits it, one stands for input, and a pair of brackets encloses a loop.  Every
other character is a comment.  This module fixes the instructions and their spelling.

Main definitions:

* `TapeMachine.Instruction` — the eight instructions;
* `TapeMachine.Instruction.toChar`, `TapeMachine.Instruction.ofChar?` — their spelling, and the
  reading of a single character.
-/

set_option relaxedAutoImplicit false
set_option autoImplicit false

namespace TapeMachine

/-- One instruction of the tape language. -/
inductive Instruction where
  /-- Move the pointer one cell to the right. -/
  | right
  /-- Move the pointer one cell to the left. -/
  | left
  /-- Add one to the current cell. -/
  | increment
  /-- Subtract one from the current cell. -/
  | decrement
  /-- Emit the current cell. -/
  | output
  /-- Ask for input, of which there is none. -/
  | input
  /-- Open a loop: skip it when the current cell is zero. -/
  | opening
  /-- Close a loop: repeat it when the current cell is not zero. -/
  | closing
deriving DecidableEq, Inhabited

namespace Instruction

/-- The character that spells an instruction. -/
def toChar : Instruction → Char
  | right => '>'
  | left => '<'
  | increment => '+'
  | decrement => '-'
  | output => '.'
  | input => ','
  | opening => '['
  | closing => ']'

/-- The instruction that a character spells; every other character spells none. -/
def ofChar? : Char → Option Instruction
  | '>' => some right
  | '<' => some left
  | '+' => some increment
  | '-' => some decrement
  | '.' => some output
  | ',' => some input
  | '[' => some opening
  | ']' => some closing
  | _ => none

end Instruction

end TapeMachine
