/-
**One step.**

A step executes the instruction at the current position and tells what it did.  Movement stops at
the ends of the tape, cells wrap around, input does nothing, and a bracket jumps behind its partner
when its guard holds.  A step that would continue at the end of the program ends the run there; a
bracket that has to jump and has no partner ends it with a fault, which is entered in the log.
A run that is over is not changed by further steps.

Main definitions:

* `TapeMachine.Effect`, `TapeMachine.Outcome` — what an instruction did, and what a step did;
* `TapeMachine.State.effect`, `TapeMachine.State.perform` — what an instruction does, decided
  without touching the state, and then carried out on it;
* `TapeMachine.State.step` — one step;
* `TapeMachine.State.next`, `TapeMachine.State.after` — the state after one step, and after `n`.

Main results:

* `TapeMachine.State.step_of_done` — a run that is over stays as it is.
-/

import TapeMachine.Breach
import TapeMachine.State

set_option relaxedAutoImplicit false
set_option autoImplicit false

namespace TapeMachine

/-- What an instruction did. -/
inductive Effect where
  /-- The pointer now stands on this cell. -/
  | moved (target : Nat)
  /-- A cell changed its value. -/
  | changed (cell : Nat) (before after : UInt8)
  /-- A value was emitted. -/
  | emitted (value : UInt8)
  /-- Input was asked for, and nothing happened. -/
  | ignored
  /-- Control continues behind the partner of the bracket. -/
  | jumped (partner : Nat)
  /-- The guard of the bracket did not hold. -/
  | passed
deriving DecidableEq

/-- The sentence that tells an effect. -/
def Effect.text : Effect → String
  | moved target => s!"Moved pointer head to index {target}"
  | changed cell before after => s!"Set cell[{cell}] from {before.toNat} to {after.toNat}"
  | emitted value => s!"Output value {value.toNat}"
  | ignored => "Input is not supported; nothing happens"
  | jumped partner => s!"Jump to matching bracket at IP {partner}"
  | passed => "Guard not taken; continue"

/-- The position at which control continues after an instruction at the given position. -/
def Effect.next (position : Nat) : Effect → Nat
  | jumped partner => partner + 1
  | moved _ | changed .. | emitted _ | ignored | passed => position + 1

/-- What a step did. -/
inductive Outcome where
  /-- The run was over already; nothing changed. -/
  | frozen
  /-- An instruction was executed; `halted` tells that it was the last of the run. -/
  | applied (position : Nat) (instruction : Instruction) (effect : Effect) (halted : Bool)
  /-- A bracket had to jump and has no partner; the run is over. -/
  | faulted (u : Unmatched)
deriving DecidableEq

/-- A step makes progress unless the run was over already. -/
def Outcome.madeProgress : Outcome → Bool
  | frozen => false
  | applied .. | faulted _ => true

/-- A bracket jumps when its guard holds: the opening one on zero, the closing one on the rest. -/
def Side.guard : Side → UInt8 → Bool
  | opening, cell => cell = 0
  | closing, cell => cell ≠ 0

namespace State

/-- What a bracket does on the given value in the current cell. -/
def branch (p : Program) (s : State) (side : Side) (cell : UInt8) : Except Unmatched Effect :=
  if side.guard cell then (p.partner s.position side.direction).map .jumped else .ok .passed

/-- What an instruction does on the given value in the current cell. -/
def effect (p : Program) (s : State) (cell : UInt8) : Instruction → Except Unmatched Effect
  | .right => .ok (.moved (min (s.pointer + 1) (s.tape.capacity - 1)))
  | .left => .ok (.moved (s.pointer - 1))
  | .increment => .ok (.changed s.pointer cell (s.tape.succ cell))
  | .decrement => .ok (.changed s.pointer cell (s.tape.pred cell))
  | .output => .ok (.emitted cell)
  | .input => .ok .ignored
  | .opening => s.branch p .opening cell
  | .closing => s.branch p .closing cell

/-- The state with its data changed as the effect tells, before control moves on. -/
def perform (s : State) : Effect → State
  | .moved target => { s with pointer := target }
  | .changed cell _ after => { s with tape := s.tape.set cell after }
  | .emitted value => { s with log := s.log.push (.value value) }
  | .ignored | .jumped _ | .passed => s

/-- Control continues at `next`, or the run ends on the last instruction when `next` is the end of
the program; the marks take in the cell the pointer is on. -/
def proceed (s : State) (length next : Nat) : State :=
  { s with
    position := if next = length then length - 1 else next
    done := next = length
    lowest := min s.lowest s.pointer
    highest := max s.highest s.pointer }

/-- The run ends with a fault. -/
def halt (s : State) (u : Unmatched) : State :=
  { s with log := s.log.push (.error u), position := u.position, done := true }

/-- One step of the program. -/
def step (p : Program) (s : State) : Except Breach (State × Outcome) :=
  if s.done then .ok (s, .frozen)
  else
    match p.get? s.position with
    | none => .error (.positionOutside s.position p.length)
    | some instruction =>
      match s.cell? with
      | none => .error (.cellOutside s.pointer s.tape.capacity)
      | some cell =>
        match s.effect p cell instruction with
        | .error u => .ok (s.halt u, .faulted u)
        | .ok effect =>
          let next := effect.next s.position
          if p.length < next then .error (.positionEscaped next p.length)
          else
            let outcome := .applied s.position instruction effect (next = p.length)
            .ok ((s.perform effect).proceed p.length next, outcome)

/-- The state after one step. -/
def next (p : Program) (s : State) : Except Breach State := (s.step p).map Prod.fst

/-- The state after exactly `n` steps. -/
def after (p : Program) : Nat → State → Except Breach State
  | 0, s => .ok s
  | n + 1, s => s.next p >>= fun t => t.after p n

/-- **A run that is over stays as it is.** -/
theorem step_of_done {p : Program} {s : State} (h : s.done = true) :
    s.step p = .ok (s, .frozen) := by
  simp [step, h]

end State

end TapeMachine
