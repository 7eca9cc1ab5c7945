/-
**The program on a real system.**

The outer layer: it collects what the commands find around them, reads and writes files, keeps the
time, and prints the report.  Everything else is decided by `TapeMachine.Command.dispatch`.
-/

import TapeMachine.Command.Dispatch
import TapeMachine.Command.Filter

set_option relaxedAutoImplicit false
set_option autoImplicit false

namespace TapeMachine.Command

/-- The number of a problem, which the system may give with a minus sign. -/
def problemNumber (code : UInt32) : Nat := (min code (0 - code)).toNat

/-- Why the system could not use a file. -/
def problemOf (e : IO.Error) : FileProblem :=
  match e with
  | .noFileOrDirectory .. | .noSuchThing .. => .missing
  | .alreadyExists .. => .alreadyThere
  | .inappropriateType _ code _ => if problemNumber code = 20 then .notFolder else .isFolder
  | .invalidArgument _ code _ =>
    if problemNumber code = 36 then .nameTooLong else .other (toString e)
  | .permissionDenied .. => .other "Permission denied (os error 13)"
  | e => .other (toString e)

/-- The result of an action, or why the system could not carry it out. -/
def attempt {α : Type} (action : IO α) : IO (Except FileProblem α) := do
  match ← action.toBaseIO with
  | .ok a => return .ok a
  | .error e => return .error (problemOf e)

/-- The text of a file of the system. -/
def readSystemText (path : String) : IO (Except FileProblem String) := do
  match ← attempt (IO.FS.readBinFile path) with
  | .error p => return .error p
  | .ok content =>
    match String.fromUTF8? content with
    | some text => return .ok text
    | none => return .error .notText

/-- A path leads to a folder of the system, which cannot be read as a file. -/
def isSystemFolder (path : String) : IO Bool := do
  match ← attempt (IO.FS.readBinFile path) with
  | .error .isFolder => return true
  | _ => return false

/-- Add a text to the end of a file of the system, which is made if it is not there. -/
def appendSystemText (path text : String) : IO Unit :=
  IO.FS.withFile path .append fun h => h.putStr text

/-- The number of steps between two looks at the clock. -/
def stepsPerLook : Nat := 65536

/-- Carry on with a job until it is over or the deadline has passed. -/
partial def driveUntil (job : Job) (deadline : Nat) (p : Progress) :
    IO (Except Breach Progress) := do
  match p.ending with
  | .unfinished _ =>
    if deadline ≤ (← IO.monoMsNow) then return .ok p
    match job.resume p stepsPerLook with
    | .error b => return .error b
    | .ok q => driveUntil job deadline q
  | _ => return .ok p

/-- What the system does for a command.  It has no control over the terminal, so the viewer finds
none. -/
def systemHost : Host IO where
  readText := readSystemText
  isFolder := isSystemFolder
  makeFolder := fun path => attempt (IO.FS.createDir path)
  openFile := fun path => attempt (appendSystemText path "")
  append := appendSystemText
  drive := fun job => do
    let deadline := (← IO.monoMsNow) + job.timeoutMillis
    match job.begin stepsPerLook with
    | .error b => return .error b
    | .ok p => driveUntil job deadline p
  showSession := fun _ _ _ => return .error "No such device or address (os error 6)"

/-- The path of the configuration text. -/
def configPath? : IO (Option String) := do
  match ← IO.getEnv "XDG_CONFIG_HOME" with
  | some folder => return some (folder ++ "/bf-stepper.toml")
  | none =>
    match ← IO.getEnv "HOME" with
    | some home => return some (home ++ "/.config/bf-stepper.toml")
    | none => return none

/-- The name that the program is called by: the first of the words that it is called with, which the
system ends with a zero. -/
def systemName : IO String := do
  match ← attempt (IO.FS.readBinFile "/proc/self/cmdline") with
  | .error _ => return "bf"
  | .ok words => return (String.fromUTF8? (words.extract 0 (words.toList.idxOf 0))).getD "bf"

/-- What a command finds around it on the system. -/
def systemSurroundings : IO Surroundings := do
  let found ← variableNames.filterMapM fun name => do
    return (← IO.getEnv name).map fun value => (name, value)
  let config ← match ← configPath? with
    | none => pure none
    | some path => readSystemText path >>= fun text => pure text.toOption
  let terminal ← (← IO.getStdout).isTty
  let plain := (← IO.getEnv "NO_COLOR").isSome
  return {
    name := ← systemName
    environment := fun name => found.lookup name
    config := config
    color := terminal && !plain
    library := Log.Library.standard }

end TapeMachine.Command

open TapeMachine.Command in
/-- Carry out what the words of the command line ask for, and print the report. -/
def main (words : List String) : IO UInt32 := do
  let around ← systemSurroundings
  let report ← dispatch systemHost around words
  let out ← IO.getStdout
  out.write (ByteArray.mk report.stdout.toBytes.toArray)
  out.flush
  (← IO.getStderr).putStr report.stderr
  return UInt32.ofNat report.exit
