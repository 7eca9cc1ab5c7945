/-
**Settings.**

The shape of the machine and the delays of the cadences are each taken from the first source that
has an entry for them: the command line, the environment, the section `engine` of the configuration
text.  An entry of the environment or of the text is trimmed and read as a number; when that fails,
or when there is no entry at all, the default holds.

Main definitions:

* `TapeMachine.Config.Overrides` — what the command line says;
* `TapeMachine.Config.resolveNumber` — one number from its sources;
* `TapeMachine.Config.Settings`, `TapeMachine.Config.Settings.resolve` — all of them together.

Main results:

* `TapeMachine.Config.resolveNumber_flag` — the command line has the last word.
-/

import TapeMachine.Config.Sections
import TapeMachine.Scheduler
import TapeMachine.Machine
import TapeMachine.Text.Numeral

set_option relaxedAutoImplicit false
set_option autoImplicit false

namespace TapeMachine.Config

open Text

/-- The numbers that the command line gives, each of them optional. -/
structure Overrides where
  /-- The number of cells. -/
  capacity : Option Nat
  /-- The modulus of a cell. -/
  modulus : Option Nat
  /-- The normal delay in milliseconds. -/
  normalMillis : Option Nat
  /-- The fast delay in milliseconds. -/
  fastMillis : Option Nat
deriving DecidableEq, Inhabited

/-- The machine and the delays that were settled on. -/
structure Settings where
  /-- The machine. -/
  machine : Machine
  /-- The delays. -/
  delays : Delays
deriving DecidableEq, Inhabited

/-- The number below `bound` that an entry spells, blanks at its ends aside. -/
def readEntry (bound : Nat) (entry : List Char) : Option Nat :=
  (readNat bound (trim entry)).toOption

/-- A number from its sources: the command line, then the first entry of environment and
configuration text, and the default when that gives no number below `bound`. -/
def resolveNumber (bound default : Nat) (flag : Option Nat) (env file : Option (List Char)) : Nat :=
  (flag.or ((env.or file).bind (readEntry bound))).getD default

/-- The name of the section with the settings. -/
def engineSection : String := "engine"

/-- The settings that the command line, a configuration text and the environment amount to. -/
def Settings.resolve (flags : Overrides) (file : Option String) (env : String → Option String) :
    Except Machine.Invalid Settings :=
  let entries := match file with
    | none => []
    | some text => assignments text.toList
  let number (bound default : Nat) (flag : Option Nat) (envKey fileKey : String) : Nat :=
    resolveNumber bound default flag ((env envKey).map String.toList)
      (value? entries engineSection.toList fileKey.toList)
  let capacity := number word64 Machine.defaultCapacity flags.capacity "BF_CAPACITY" "capacity"
  let modulus := number word16 Machine.defaultModulus flags.modulus "BF_MODULUS" "modulus"
  let normal := number word64 Delays.defaultNormalMillis flags.normalMillis
    "BF_RUN_DELAY_MS" "run_delay_ms"
  let fast := number word64 Delays.defaultFastMillis flags.fastMillis
    "BF_FF_DELAY_MS" "fast_delay_ms"
  (Machine.ofShape capacity modulus).map fun machine => ⟨machine, Delays.ofMillis normal fast⟩

/-- **The command line has the last word.** -/
@[simp] theorem resolveNumber_flag (bound default n : Nat) (env file : Option (List Char)) :
    resolveNumber bound default (some n) env file = n := rfl

end TapeMachine.Config
