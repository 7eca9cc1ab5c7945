/-
**Diagnostics.**

A diagnostic record is of a kind and has a message.  It becomes a line if its kind is admitted.
Which kinds are admitted is told by a text, and what the text means is for the library to say that
writes the lines.

Main definitions:

* `TapeMachine.Log.Level`, `TapeMachine.Log.Kind` — how severe a record is, and what the records of
  one kind have in common;
* `TapeMachine.Log.Library` — what a library makes of a text;
* `TapeMachine.Log.Record`, `TapeMachine.Log.lines` — a record, and the lines of those that are
  admitted;
* `TapeMachine.Log.loaded`, `TapeMachine.Log.stepped?` — the records of a session.
-/

import TapeMachine.Session

set_option relaxedAutoImplicit false
set_option autoImplicit false

namespace TapeMachine.Log

/-- How severe a record is. -/
inductive Level where
  | error
  | warn
  | info
  | debug
  | trace
deriving DecidableEq

namespace Level

/-- The word that begins a line of this level. -/
def label : Level → String
  | error => "ERROR"
  | warn => "WARN"
  | info => "INFO"
  | debug => "DEBUG"
  | trace => "TRACE"

end Level

/-- What the records of one kind have in common. -/
structure Kind where
  /-- How severe they are. -/
  level : Level
  /-- The part of the program they come from. -/
  part : String
  /-- The names of their fields. -/
  fields : List String
deriving DecidableEq

/-- What a library that writes diagnostics makes of a text that says which of them are wanted. -/
structure Library where
  /-- The records of a kind are admitted. -/
  admits : String → Kind → Bool
  /-- What is said about the parts of the text that are passed over. -/
  remarks : String → String
  /-- The text breaks everything off. -/
  breaks : String → Bool

/-- A diagnostic record. -/
structure Record where
  /-- What it has in common with others. -/
  kind : Kind
  /-- What it tells. -/
  message : String
deriving DecidableEq

/-- The line of a record. -/
def Record.line (r : Record) : String := s!"{r.kind.level.label} {r.kind.part}: {r.message}\n"

/-- The lines of the records that are admitted. -/
def lines (admits : Kind → Bool) (records : List Record) : String :=
  String.join ((records.filter fun r => admits r.kind).map Record.line)

/-! ### The records of a session -/

/-- The part of the program that executes instructions. -/
def engine : String := "engine"

namespace Kind

/-- A program was loaded. -/
def programLoaded : Kind := ⟨.info, engine, ["message", "tokens", "capacity", "modulus"]⟩

/-- An instruction was executed. -/
def step : Kind := ⟨.trace, engine, ["message", "ip", "op", "ptr", "effect", "halted"]⟩

/-- A bracket had no partner. -/
def unmatchedBracket : Kind := ⟨.warn, engine, ["message", "ip", "kind"]⟩

/-- The terminal could not be used. -/
def terminalFailed : Kind := ⟨.error, "tui", ["message", "error"]⟩

end Kind

/-- A program was loaded. -/
def loaded (s : Session) : Record where
  kind := .programLoaded
  message := s!"program_loaded tokens={s.program.length} capacity={s.machine.capacity} " ++
    s!"modulus={s.machine.modulus}"

/-- What tells that a step was taken to a state. -/
def stepMessage (s : State) : Outcome → String
  | .frozen => ""
  | .applied position instruction effect halted =>
    s!"step ip={position} op={instruction.toChar} ptr={s.pointer} " ++
      s!"effect={effect.text} halted={halted}"
  | .faulted u => s!"unmatched_bracket ip={u.position} kind={u.side.quoted}"

/-- The kind of the record of a step; a step that changed nothing leaves none. -/
def stepKind? : Outcome → Option Kind
  | .frozen => none
  | .applied .. => some .step
  | .faulted _ => some .unmatchedBracket

/-- Which of the records of steps are wanted. -/
structure StepFilter where
  /-- Those of instructions that were executed. -/
  applied : Bool
  /-- Those of brackets without a partner. -/
  faulted : Bool
deriving DecidableEq

/-- The records of steps that are admitted. -/
def StepFilter.ofAdmitted (admits : Kind → Bool) : StepFilter :=
  ⟨admits .step, admits .unmatchedBracket⟩

/-- The record of a step is wanted. -/
def StepFilter.wants (f : StepFilter) : Outcome → Bool
  | .frozen => false
  | .applied .. => f.applied
  | .faulted _ => f.faulted

/-- The record of a step to a state, if it is wanted. -/
def stepped? (f : StepFilter) (s : State) (outcome : Outcome) : Option Record :=
  if f.wants outcome then (stepKind? outcome).map fun k => ⟨k, stepMessage s outcome⟩ else none

/-- The terminal could not be used. -/
def terminalFailed (reason : String) : Record where
  kind := .terminalFailed
  message := s!"terminal_failed error={reason}"

end TapeMachine.Log
