/-
**Excerpts around a position.**

A report about a position of a program shows the instructions around it, and under them a line with
a caret below the instruction that is meant.

Main definitions:

* `TapeMachine.Excerpt`, `TapeMachine.Program.excerpt` — the two lines;
* `TapeMachine.Program.checkedExcerpt` — the same, for a position of 64 bits.
-/

import TapeMachine.Program
import TapeMachine.Word

set_option relaxedAutoImplicit false
set_option autoImplicit false

namespace TapeMachine

/-- Two lines that show a position of a program. -/
structure Excerpt where
  /-- The instructions around the position. -/
  slice : List Char
  /-- Blanks, and a caret below the position. -/
  caret : List Char
deriving DecidableEq

/-- How many instructions an excerpt shows on either side. -/
def Excerpt.window : Nat := 32

namespace Program

/-- Where the excerpt around a position begins. -/
def excerptStart (p : Program) (position : Nat) : Nat :=
  min (position - Excerpt.window) p.length

/-- Where the excerpt around a position ends. -/
def excerptStop (p : Program) (position : Nat) : Nat :=
  min (position + Excerpt.window + 1) p.length

/-- The excerpt around a position. -/
def excerpt (p : Program) (position : Nat) : Excerpt where
  slice := (p.slice (p.excerptStart position) (p.excerptStop position)).map Instruction.toChar
  caret := List.replicate (position - p.excerptStart position) ' ' ++ ['^']

/-- The excerpt around a position, if it ends at a number of 64 bits and its second line fits in
memory. -/
def checkedExcerpt (p : Program) (position : Nat) : Except Breach Excerpt :=
  match checkedSum position (Excerpt.window + 1) with
  | .error b => .error b
  | .ok _ =>
    (checkedLength (position - p.excerptStart position)).map fun _ => p.excerpt position

end Program

end TapeMachine
