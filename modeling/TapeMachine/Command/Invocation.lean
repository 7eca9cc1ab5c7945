/-
**Invocations.**

The words of the command line ask for a usage text, for a run of a program without a screen, or for
the viewer.

Main definitions:

* `TapeMachine.Command.RunOptions`, `TapeMachine.Command.ViewOptions` — what the two commands may
  be told;
* `TapeMachine.Command.Invocation`, `TapeMachine.Command.Invocation.read` — what the words ask for.
-/

import TapeMachine.Command.Arguments
import TapeMachine.Text.Numeral

set_option relaxedAutoImplicit false
set_option autoImplicit false

namespace TapeMachine.Command

open Text

/-- The shape of the machine, as far as the command line gives it. -/
structure MachineOptions where
  /-- The number of cells. -/
  capacity : Option Nat
  /-- The modulus of a cell. -/
  modulus : Option Nat
deriving DecidableEq

/-- What a run without a screen may be told. -/
structure RunOptions where
  /-- Print a table of the steps. -/
  trace : Bool
  /-- Print the emitted values as characters. -/
  ascii : Bool
  /-- The file with the code. -/
  file : Option String
  /-- The parts of the code, the latest first. -/
  parts : List String
  /-- The shape of the machine. -/
  machine : MachineOptions
  /-- The time limit in milliseconds. -/
  timeoutMillis : Option Nat
  /-- The step limit. -/
  maxSteps : Option Nat
  /-- Print the usage text. -/
  help : Bool
deriving DecidableEq

/-- What the viewer may be told. -/
structure ViewOptions where
  /-- The file with the code. -/
  file : Option String
  /-- The code. -/
  code : Option String
  /-- The shape of the machine. -/
  machine : MachineOptions
  /-- The normal delay in milliseconds. -/
  normalMillis : Option Nat
  /-- The fast delay in milliseconds. -/
  fastMillis : Option Nat
  /-- The file for diagnostics. -/
  log : Option String
  /-- Print the usage text. -/
  help : Bool
deriving DecidableEq

/-- A shape that is not given. -/
def MachineOptions.initial : MachineOptions := ⟨none, none⟩

/-- A run that is told nothing. -/
def RunOptions.initial : RunOptions where
  trace := false
  ascii := false
  file := none
  parts := []
  machine := MachineOptions.initial
  timeoutMillis := none
  maxSteps := none
  help := false

/-- A viewer that is told nothing. -/
def ViewOptions.initial : ViewOptions where
  file := none
  code := none
  machine := MachineOptions.initial
  normalMillis := none
  fastMillis := none
  log := none
  help := false

/-! ### The options -/

/-- An option whose value is a number of 64 bits. -/
def numberOpt {σ : Type} (letter : Option Char) (name label : String) (set : Nat → σ → σ) :
    Opt σ where
  letter := letter
  name := name
  action := .value label fun value result =>
    match readNat word64 value.toList with
    | .ok n => .ok (set n result)
    | .error e => .error (.invalid e.message)

/-- The modulus that a text spells: a number of 64 bits with a sign, which has to have 16 bits. -/
def readModulus (value : List Char) : Except Refusal Nat :=
  match readInt signed64 value with
  | .error e => .error (.invalid e.message)
  | .ok i =>
    if 0 ≤ i ∧ i < word16 then .ok i.toNat
    else .error (.invalid s!"{i} is not in 0..=65535")

/-- The option that gives the modulus. -/
def modulusOpt {σ : Type} (set : Nat → σ → σ) : Opt σ where
  letter := some 'm'
  name := "modulus"
  action := .value "M" fun value result =>
    (readModulus value.toList).map fun n => set n result

/-- An option whose value is any text. -/
def textOpt {σ : Type} (letter : Option Char) (name label : String) (set : String → σ → σ) :
    Opt σ where
  letter := letter
  name := name
  action := .value label fun value result => .ok (set value result)

/-- An option whose value is a text that is not empty. -/
def pathOpt {σ : Type} (name label : String) (set : String → σ → σ) : Opt σ where
  letter := none
  name := name
  action := .value label fun value result =>
    if value.isEmpty then .error .missing else .ok (set value result)

/-- An option that stands for itself. -/
def switchOpt {σ : Type} (letter : Char) (name : String) (set : σ → σ) : Opt σ where
  letter := some letter
  name := name
  action := .switch set

/-- The words of a run without a screen. -/
def runGrammar : Grammar RunOptions where
  options := [
    switchOpt 't' "trace" fun o => { o with trace := true },
    switchOpt 'a' "ascii" fun o => { o with ascii := true },
    textOpt (some 'f') "file" "FILE" fun path o => { o with file := some path },
    numberOpt (some 'c') "capacity" "CELLS" fun n o =>
      { o with machine := { o.machine with capacity := some n } },
    modulusOpt fun n o => { o with machine := { o.machine with modulus := some n } },
    numberOpt none "timeout" "MS" fun n o => { o with timeoutMillis := some n },
    numberOpt none "max-steps" "N" fun n o => { o with maxSteps := some n },
    switchOpt 'h' "help" fun o => { o with help := true }]
  operands := .trailing fun word o => { o with parts := word :: o.parts }
  commands := []

/-- The words of the viewer. -/
def viewGrammar : Grammar ViewOptions where
  options := [
    textOpt (some 'f') "file" "PATH" fun path o => { o with file := some path },
    numberOpt (some 'c') "capacity" "CELLS" fun n o =>
      { o with machine := { o.machine with capacity := some n } },
    modulusOpt fun n o => { o with machine := { o.machine with modulus := some n } },
    numberOpt none "run-delay" "MS" fun n o => { o with normalMillis := some n },
    numberOpt none "ff-delay" "MS" fun n o => { o with fastMillis := some n },
    pathOpt "log" "PATH" fun path o => { o with log := some path },
    switchOpt 'h' "help" fun o => { o with help := true }]
  operands := .single fun word o => { o with code := some word }
  commands := []

/-- The words in front of a command; the result tells whether help was asked for. -/
def topGrammar : Grammar Bool where
  options := [switchOpt 'h' "help" fun _ => true]
  operands := .none
  commands := ["run", "tui"]

/-! ### The invocation -/

/-- What the words of the command line ask for. -/
inductive Invocation where
  /-- The usage of the program, asked for or not. -/
  | overview (asked : Bool)
  /-- A run without a screen. -/
  | run (options : RunOptions)
  /-- The viewer. -/
  | view (options : ViewOptions)
deriving DecidableEq

/-- What the words of the command line ask for.  Help asked for in front of a command goes before
the command, once the words of the command are accepted. -/
def Invocation.read (words : List String) : Except ArgumentError Invocation := do
  let (help, further) ← topGrammar.read false words
  match further with
  | none => return .overview help
  | some (command, rest) =>
    if command = "run" then
      let (options, _) ← runGrammar.read RunOptions.initial rest
      return if help then .overview true else .run options
    else
      let (options, _) ← viewGrammar.read ViewOptions.initial rest
      return if help then .overview true else .view options

end TapeMachine.Command
