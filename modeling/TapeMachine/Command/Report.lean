/-
**Reports.**

What a command leaves behind: an exit code, what it printed, and its diagnostics.

Main definitions:

* `TapeMachine.Command.Printed` — printed text, or printed bytes;
* `TapeMachine.Command.Report` — what a command leaves behind;
* `TapeMachine.Command.faultReport` — the report of an unmatched bracket.
-/

import TapeMachine.Bracket
import TapeMachine.Excerpt

set_option relaxedAutoImplicit false
set_option autoImplicit false

namespace TapeMachine.Command

/-- What was printed. -/
inductive Printed where
  /-- A text. -/
  | text (t : String)
  /-- Bytes, which need not be a text. -/
  | bytes (b : List UInt8)
deriving DecidableEq

/-- The bytes that were printed. -/
def Printed.toBytes : Printed → List UInt8
  | text t => t.toUTF8.toList
  | bytes b => b

/-- What a command leaves behind. -/
structure Report where
  /-- The exit code. -/
  exit : Nat
  /-- What was printed as the result. -/
  stdout : Printed
  /-- What was printed about the run. -/
  stderr : String
deriving DecidableEq

namespace Report

/-- A report without a result. -/
def ofStderr (exit : Nat) (stderr : String) : Report := ⟨exit, .text "", stderr⟩

/-- A report that ends a command early, in the name of the program. -/
def ofProblem (name : String) (exit : Nat) (problem : String) : Report :=
  ofStderr exit s!"{name}: {problem}\n"

/-- A report with remarks in front of its diagnostics. -/
def after (r : Report) (remarks : String) : Report := { r with stderr := remarks ++ r.stderr }

end Report

/-- The report of an unmatched bracket, in the name of the program, with the instructions around
it. -/
def faultReport (name : String) (p : Program) (u : Unmatched) : String :=
  let e := p.excerpt u.position
  s!"{name}: Runtime error: unmatched bracket {u.side.quoted} " ++
    s!"at instruction {u.position}\n" ++
    s!"  {String.ofList e.slice}\n  {String.ofList e.caret}\n"

end TapeMachine.Command
