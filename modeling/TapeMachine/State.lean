/-
**The state of a run.**

A state is everything that executing an instruction may change: the tape, the pointer on it, the
position in the program, the marks of how far the pointer has been, the log of what was emitted,
and whether the run is over.

Main definitions:

* `TapeMachine.Event` — an entry of the log: an emitted value, or the fault that ended the run;
* `TapeMachine.State`, `TapeMachine.State.start` — the state, and the one a run starts in;
* `TapeMachine.State.emitted`, `TapeMachine.State.fault?` — what the log says;
* `TapeMachine.State.agrees` — two states are the same but for how much of the tape is stored.
-/

import TapeMachine.Bracket
import TapeMachine.Tape

set_option relaxedAutoImplicit false
set_option autoImplicit false

namespace TapeMachine

/-- An entry of the log. -/
inductive Event where
  /-- A cell value was emitted. -/
  | value (v : UInt8)
  /-- A bracket without a partner ended the run. -/
  | error (u : Unmatched)
deriving DecidableEq

namespace Event

/-- The line that shows an entry: a colon for a value, an exclamation mark for a fault. -/
def text : Event → String
  | value v => s!": {v.toNat}"
  | error u => s!"! {u.message}"

/-- The value of an entry, if it is one. -/
def value? : Event → Option UInt8
  | value v => some v
  | error _ => none

/-- The fault of an entry, if it is one. -/
def fault? : Event → Option Unmatched
  | value _ => none
  | error u => some u

end Event

/-- The state of a run. -/
structure State where
  /-- The cells. -/
  tape : Tape
  /-- The index of the current cell. -/
  pointer : Nat
  /-- The position of the next instruction. -/
  position : Nat
  /-- The lowest cell the pointer has visited. -/
  lowest : Nat
  /-- The highest cell the pointer has visited. -/
  highest : Nat
  /-- What was emitted so far, oldest first. -/
  log : Array Event
  /-- The run is over. -/
  done : Bool
deriving DecidableEq

namespace State

/-- The state a run of the program starts in.  A program without instructions is over at once. -/
def start (p : Program) (m : Machine) : State where
  tape := Tape.blank m
  pointer := 0
  position := 0
  lowest := 0
  highest := 0
  log := #[]
  done := p.isEmpty

/-- The value under the pointer, if the pointer is on the tape. -/
def cell? (s : State) : Option UInt8 := s.tape.get? s.pointer

/-- The value under the pointer, zero beside the tape. -/
def cell (s : State) : UInt8 := s.cell?.getD 0

/-- The values emitted so far, oldest first. -/
def emitted (s : State) : List UInt8 := s.log.toList.filterMap Event.value?

/-- The latest fault in the log. -/
def fault? (s : State) : Option Unmatched := s.log.toList.reverse.findSome? Event.fault?

/-- Whether two states have tapes that agree and are equal in everything else. -/
def agrees (s t : State) : Bool := s.tape.agrees t.tape && ({ s with tape := t.tape } = t)

theorem agrees_iff (s t : State) :
    s.agrees t = true ↔ s.tape.agrees t.tape = true ∧ { s with tape := t.tape } = t := by
  simp [agrees]

theorem agrees_refl (s : State) : s.agrees s = true := by
  simp [agrees_iff, Tape.agrees_refl]

end State

end TapeMachine
