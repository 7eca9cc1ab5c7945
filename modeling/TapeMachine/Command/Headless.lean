/-
**Runs without a screen.**

A program is run to its end, or until a limit of steps or of time is reached.  The values it emits
are printed as lines or as characters; or a table of its steps is printed instead, with one row for
each.  Problems are reported apart from the result.

Main definitions:

* `TapeMachine.Command.Job` — what is run, and how it is printed;
* `TapeMachine.Command.Transcript`, `TapeMachine.Command.Transcript.observe` — the rows and the
  diagnostics of the steps so far;
* `TapeMachine.Command.Job.begin`, `TapeMachine.Command.Job.resume` — a run, bit by bit;
* `TapeMachine.Command.Job.report` — the report of a run.
-/

import TapeMachine.Color.Palette
import TapeMachine.Command.Log
import TapeMachine.Command.Report
import TapeMachine.Text.Pad

set_option relaxedAutoImplicit false
set_option autoImplicit false

namespace TapeMachine.Command

open Text

/-- What is run without a screen, and how it is printed. -/
structure Job where
  /-- The name of the program in whose name problems are reported. -/
  name : String
  /-- The session before the run. -/
  session : Session
  /-- The step limit. -/
  maxSteps : Option Nat
  /-- The time limit in milliseconds. -/
  timeoutMillis : Nat
  /-- Print a table of the steps. -/
  trace : Bool
  /-- Print the emitted values as characters. -/
  ascii : Bool
  /-- Print in colour. -/
  color : Bool
  /-- The diagnostics of a kind are wanted. -/
  admits : Log.Kind → Bool

/-! ### The table of the steps -/

/-- What is known of a run while it is observed. -/
structure Transcript where
  /-- The rows of the table, the latest first. -/
  rows : List String
  /-- The number of rows. -/
  count : Nat
  /-- The pointer before the next step. -/
  pointer : Nat
  /-- The current cell before the next step. -/
  cell : UInt8
  /-- The lines of the diagnostics, the latest first. -/
  records : List String

/-- The head of the table. -/
def tableHead : List String :=
  ["STEP | IP  | PTR | CELL | INSTR | ACTION",
    "-----+-----+-----+------+-------+------------------------------------------------"]

/-- The text at the left of a column. -/
def column (width : Nat) (text : String) : String := String.ofList (padRight width text.toList)

/-- The position, the instruction and the action of a step, and the kind of text the action is. -/
def stepCells? : Outcome → Option (Nat × Char × String × Palette.Role)
  | .frozen => none
  | .applied position instruction effect _ =>
    some (position, instruction.toChar, effect.text, .action)
  | .faulted u => some (u.position, u.side.toChar, u.message, .error)

/-- The row of a step. -/
def tableRow (color : Bool) (number pointer : Nat) (cell : UInt8)
    (cells : Nat × Char × String × Palette.Role) : String :=
  let (position, instruction, action, role) := cells
  column 4 (toString number) ++ " | " ++
    Palette.paint color .pointer (column 3 (toString position)) ++ " | " ++
    column 3 (toString pointer) ++ " | " ++ column 4 (toString cell.toNat) ++ " |  " ++
    Palette.paint color .instruction (String.singleton instruction) ++ "    | " ++
    Palette.paint color role action

namespace Transcript

/-- Nothing has been observed. -/
def start (s : Session) : Transcript := ⟨[], 0, s.state.pointer, s.state.cell, []⟩

/-- A step to a state is observed. -/
def observe (job : Job) (filter : Log.StepFilter) (t : Transcript) (s : State)
    (outcome : Outcome) : Transcript :=
  let row := if job.trace then stepCells? outcome else none
  let record := Log.stepped? filter s outcome
  { rows := (row.map (tableRow job.color t.count t.pointer t.cell)).toList ++ t.rows
    count := if row.isSome then t.count + 1 else t.count
    pointer := s.pointer
    cell := s.cell
    records := (record.map Log.Record.line).toList ++ t.records }

end Transcript

/-! ### The run -/

/-- How far a run has come. -/
abbrev Progress := Session.Followed Transcript

namespace Job

/-- The limits of a run. -/
def limits (job : Job) : Limits := ⟨job.maxSteps, false⟩

/-- The beginning of a run: at most `fuel` steps. -/
def begin (job : Job) (fuel : Nat) : Except Breach Progress :=
  let filter := .ofAdmitted job.admits
  job.session.runObserved job.limits (Transcript.observe job filter) (Transcript.start job.session)
    fuel

/-- The continuation of a run that is not over: at most `fuel` steps more. -/
def resume (job : Job) (p : Progress) (fuel : Nat) : Except Breach Progress :=
  match p.ending with
  | .unfinished taken =>
    let filter := .ofAdmitted job.admits
    Session.follow job.limits (Transcript.observe job filter) fuel taken p.seen p.session
  | _ => .ok p

/-! ### The report -/

/-- The emitted values, as lines or as characters. -/
def printValues (job : Job) (s : State) : Printed :=
  if job.ascii then .bytes (s.emitted ++ [10])
  else
    .text (String.join (s.emitted.map fun v =>
      Palette.paint job.color .value (Event.value v).text ++ "\n"))

/-- The table of the steps. -/
def printTable (job : Job) (t : Transcript) : Printed :=
  let head := tableHead.map (Palette.paint job.color .dim)
  .text (String.join ((head ++ t.rows.reverse).map (· ++ "\n")))

/-- The result of a run: the table of its steps if that is wanted, and else its values. -/
def printResult (job : Job) (p : Progress) : Printed :=
  if job.trace then job.printTable p.seen else job.printValues p.session.state

/-- What is said about how a run ended, and the exit code. -/
def verdict (job : Job) (p : Progress) : Nat × String :=
  match p.ending with
  | .aborted reason => (1, s!"{job.name}: {reason.message}\n")
  | _ =>
    match p.session.state.fault? with
    | some u => (1, faultReport job.name p.session.program u)
    | none => (0, "")

/-- What is said about a run that took too much time. -/
def timeoutMessage (job : Job) : String :=
  s!"Execution aborted: wall-clock timeout exceeded ({job.timeoutMillis} ms)\n"

/-- The diagnostics of a run. -/
def diagnostics (job : Job) (p : Progress) : String :=
  Log.lines job.admits [Log.loaded job.session] ++ String.join p.seen.records.reverse

/-- The report of a run, as far as it has come; a run that is not over took too much time. -/
def report (job : Job) (p : Progress) : Report :=
  let (exit, message) := match p.ending with
    | .unfinished _ => (1, job.timeoutMessage)
    | _ => job.verdict p
  ⟨exit, job.printResult p, job.diagnostics p ++ message⟩

end Job

end TapeMachine.Command
