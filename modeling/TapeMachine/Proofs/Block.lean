/-
**Structured programs and their meaning.**

A program is a flat sequence of instructions, and a loop in it is only a matter of where its
brackets stand.  Here loops are part of the syntax: a block is a list of commands and of loops
around blocks.  Its meaning is given directly, by a relation between the store before and the store
after, without positions, jumps or brackets; a loop that never ends relates its store to none.

Main definitions:

* `TapeMachine.Command`, `TapeMachine.Block` — the commands, and the blocks built from them;
* `TapeMachine.Block.flatten`, `TapeMachine.Block.program` — the instructions of a block;
* `TapeMachine.Store` — cells that count modulo the modulus, a pointer on them, and the output;
* `TapeMachine.Command.run`, `TapeMachine.Block.Runs` — **the meaning** of commands and blocks;
* `TapeMachine.Program.Holds` — a list of instructions stands at a position of a program.

Main results:

* `TapeMachine.Program.Holds.nested` — a block is well nested wherever it stands;
* `TapeMachine.Program.Holds.mates` — the two brackets of a loop are mates.
-/

import Mathlib.Algebra.GroupWithZero.Nat
import Mathlib.Logic.Function.Basic
import TapeMachine.Machine
import TapeMachine.Proofs.Nesting

set_option relaxedAutoImplicit false
set_option autoImplicit false

namespace TapeMachine

/-! ### Syntax -/

/-- The instructions that are no brackets. -/
inductive Command where
  | right
  | left
  | increment
  | decrement
  | output
  | input
deriving DecidableEq

/-- The instruction of a command. -/
def Command.instruction : Command → Instruction
  | right => .right
  | left => .left
  | increment => .increment
  | decrement => .decrement
  | output => .output
  | input => .input

theorem Command.instruction_ne_opening (c : Command) : c.instruction ≠ .opening := by
  cases c <;> exact Instruction.noConfusion

theorem Command.instruction_ne_closing (c : Command) : c.instruction ≠ .closing := by
  cases c <;> exact Instruction.noConfusion

/-- A structured program: a list whose members are commands and loops around blocks. -/
inductive Block where
  | nil
  | command (c : Command) (rest : Block)
  | loop (body rest : Block)
deriving DecidableEq

namespace Block

/-- The instructions of a block, a loop between brackets. -/
def flatten : Block → List Instruction
  | nil => []
  | command c rest => c.instruction :: rest.flatten
  | loop body rest => .opening :: (body.flatten ++ .closing :: rest.flatten)

/-- The program of a block. -/
def program (b : Block) : Program := Program.ofList b.flatten

theorem length_program (b : Block) : b.program.length = b.flatten.length :=
  Program.length_ofList b.flatten

theorem end_command (q : Nat) (c : Command) (rest : Block) :
    q + (command c rest).flatten.length = q + 1 + rest.flatten.length := by
  rw [flatten, List.length_cons]
  omega

theorem end_loop (q : Nat) (body rest : Block) :
    q + (loop body rest).flatten.length =
      q + 1 + body.flatten.length + 1 + rest.flatten.length := by
  rw [flatten, List.length_cons, List.length_append, List.length_cons]
  omega

end Block

/-! ### Meaning -/

instance (m : Machine) : NeZero m.capacity := ⟨Nat.ne_of_gt m.capacity_pos⟩

instance (m : Machine) : NeZero m.modulus := ⟨by
  have := m.two_le_modulus
  omega⟩

/-- What a structured program works on. -/
@[ext] structure Store (m : Machine) where
  /-- The cells. -/
  cells : Fin m.capacity → Fin m.modulus
  /-- The index of the current cell. -/
  pointer : Fin m.capacity
  /-- The values emitted so far, oldest first. -/
  output : List (Fin m.modulus)

namespace Store

variable {m : Machine}

/-- The store at the beginning: every cell is zero. -/
def blank (m : Machine) : Store m := ⟨fun _ => 0, 0, []⟩

/-- The current cell. -/
def cell (d : Store m) : Fin m.modulus := d.cells d.pointer

/-- The store with another value in the current cell. -/
def write (d : Store m) (v : Fin m.modulus) : Store m :=
  { d with cells := Function.update d.cells d.pointer v }

/-- The store with the pointer on the given cell, or on the last one. -/
def move (d : Store m) (i : Nat) : Store m :=
  { d with pointer := ⟨min i (m.capacity - 1), by have := m.capacity_pos; omega⟩ }

end Store

/-- The meaning of a command.  Cells count modulo the modulus, the pointer stops at the ends of the
tape, and input does nothing. -/
def Command.run {m : Machine} (d : Store m) : Command → Store m
  | right => d.move (d.pointer.val + 1)
  | left => d.move (d.pointer.val - 1)
  | increment => d.write (d.cell + 1)
  | decrement => d.write (d.cell - 1)
  | output => { d with output := d.output ++ [d.cell] }
  | input => d

/-- **The meaning of a block**: run from the first store, it ends with the second.  A loop runs its
body as long as the current cell is not zero. -/
inductive Block.Runs {m : Machine} : Block → Store m → Store m → Prop where
  | nil (d : Store m) : Runs .nil d d
  | command {c : Command} {rest : Block} {d e : Store m} (next : Runs rest (c.run d) e) :
      Runs (.command c rest) d e
  | skip {body rest : Block} {d e : Store m} (zero : d.cell = 0) (next : Runs rest d e) :
      Runs (.loop body rest) d e
  | again {body rest : Block} {d e f : Store m} (nonzero : d.cell ≠ 0) (once : Runs body d e)
      (next : Runs (.loop body rest) e f) : Runs (.loop body rest) d f

/-! ### Blocks in a program -/

namespace Program

/-- The instructions stand in the program, from position `q` on. -/
def Holds (p : Program) (q : Nat) : List Instruction → Prop
  | [] => q ≤ p.length
  | x :: rest => p.get? q = some x ∧ p.Holds (q + 1) rest

namespace Holds

variable {p : Program} {q : Nat}

theorem le {l : List Instruction} (h : p.Holds q l) : q + l.length ≤ p.length := by
  induction l generalizing q with
  | nil => exact h
  | cons x rest ih =>
      have := ih h.2
      rw [List.length_cons]
      omega

theorem append {l l' : List Instruction} (h : p.Holds q (l ++ l')) :
    p.Holds q l ∧ p.Holds (q + l.length) l' := by
  induction l generalizing q with
  | nil =>
      have hq := h.le
      rw [List.nil_append] at hq
      exact ⟨by show q ≤ p.length; omega, h⟩
  | cons x rest ih =>
      obtain ⟨hx, hrest⟩ := h
      obtain ⟨h₁, h₂⟩ := ih hrest
      rw [List.length_cons, ← Nat.add_assoc, Nat.add_right_comm]
      exact ⟨⟨hx, h₁⟩, h₂⟩

/-- What a loop consists of: an opening bracket, the body, a closing bracket, and the rest. -/
theorem loop {body rest : Block} (h : p.Holds q (Block.loop body rest).flatten) :
    p.get? q = some .opening ∧ p.Holds (q + 1) body.flatten ∧
      p.get? (q + 1 + body.flatten.length) = some .closing ∧
      p.Holds (q + 1 + body.flatten.length + 1) rest.flatten := by
  obtain ⟨ho, htail⟩ := h
  obtain ⟨hbody, hc, hrest⟩ := htail.append
  exact ⟨ho, hbody, hc, hrest⟩

/-- **A block is well nested** wherever it stands. -/
theorem nested {b : Block} (h : p.Holds q b.flatten) : p.Nested q (q + b.flatten.length) := by
  induction b generalizing q with
  | nil => exact nested_refl h
  | command c rest ih =>
      have hc := nested_succ_of_ne h.1 c.instruction_ne_opening c.instruction_ne_closing
      rw [Block.end_command]
      exact hc.trans (ih h.2)
  | loop body rest ihbody ihrest =>
      obtain ⟨ho, hbody, hc, hrest⟩ := h.loop
      have hm : p.Mates q (q + 1 + body.flatten.length) := ⟨ho, hc, ihbody hbody⟩
      rw [Block.end_loop]
      exact hm.nested.trans (ihrest hrest)

/-- The two brackets of a loop are mates. -/
theorem mates {body rest : Block} (h : p.Holds q (Block.loop body rest).flatten) :
    p.Mates q (q + 1 + body.flatten.length) := by
  obtain ⟨ho, hbody, hc, _⟩ := h.loop
  exact ⟨ho, hc, hbody.nested⟩

end Holds

/-- The program of a list of instructions holds it from the beginning. -/
theorem holds_ofList (pre l : List Instruction) : (ofList (pre ++ l)).Holds pre.length l := by
  induction l generalizing pre with
  | nil =>
      show pre.length ≤ (ofList (pre ++ [])).length
      rw [List.append_nil]
      exact Nat.le_of_eq (length_ofList pre).symm
  | cons x rest ih =>
      constructor
      · rw [get?_ofList, List.getElem?_append_right (Nat.le_refl _), Nat.sub_self]
        rfl
      · have h := ih (pre ++ [x])
        rw [List.append_assoc, List.length_append] at h
        exact h

theorem holds_program (b : Block) : b.program.Holds 0 b.flatten :=
  holds_ofList [] b.flatten

end Program

end TapeMachine
