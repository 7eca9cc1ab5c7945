/-
**Programs.**

A program is a finite sequence of instructions.  Any text is a program: reading keeps the
characters that spell an instruction, in their order, and drops the rest as comment.

Main definitions:

* `TapeMachine.Program` — the instruction sequence, with constant-time access by position;
* `TapeMachine.Program.ofText`, `TapeMachine.Program.ofSource` — reading a program;
* `TapeMachine.Program.text` — its spelling without the comments.
-/

import TapeMachine.Instruction

set_option relaxedAutoImplicit false
set_option autoImplicit false

namespace TapeMachine

/-- A finite sequence of instructions, addressed by position from zero. -/
structure Program where
  /-- The instructions in order. -/
  instructions : Array Instruction
deriving DecidableEq, Inhabited

namespace Program

/-- The program with the given instructions. -/
def ofList (l : List Instruction) : Program := ⟨l.toArray⟩

/-- The instructions of a program, as a list. -/
def toList (p : Program) : List Instruction := p.instructions.toList

/-- The program that a text spells: its instruction characters in order. -/
def ofText (text : List Char) : Program := ofList (text.filterMap Instruction.ofChar?)

/-- The program that a source string spells. -/
def ofSource (source : String) : Program := ofText source.toList

/-- The number of instructions. -/
def length (p : Program) : Nat := p.instructions.size

/-- A program without instructions has nothing to execute. -/
def isEmpty (p : Program) : Bool := p.instructions.isEmpty

/-- The instruction at a position, if the position lies inside the program. -/
@[inline] def get? (p : Program) (position : Nat) : Option Instruction := p.instructions[position]?

/-- The instructions from position `start` up to, and not including, position `stop`. -/
def slice (p : Program) (start stop : Nat) : List Instruction :=
  (p.instructions.extract start stop).toList

/-- The spelling of a program, one character for each instruction. -/
def chars (p : Program) : List Char := p.toList.map Instruction.toChar

/-- The spelling of a program as a string. -/
def text (p : Program) : String := String.ofList p.chars

@[simp] theorem toList_ofList (l : List Instruction) : (ofList l).toList = l := by
  simp [ofList, toList]

@[simp] theorem length_toList (p : Program) : p.toList.length = p.length := by
  simp [toList, length]

@[simp] theorem length_ofList (l : List Instruction) : (ofList l).length = l.length := by
  simp [ofList, length]

theorem get?_eq_getElem?_toList (p : Program) (i : Nat) : p.get? i = p.toList[i]? := by
  simp [get?, toList]

theorem get?_ofList (l : List Instruction) (i : Nat) : (ofList l).get? i = l[i]? := by
  simp [get?_eq_getElem?_toList]

theorem isEmpty_iff (p : Program) : p.isEmpty = true ↔ p.length = 0 := by
  simp [isEmpty, length]

end Program

end TapeMachine
