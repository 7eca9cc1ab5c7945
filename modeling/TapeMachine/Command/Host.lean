/-
**What a command finds around it, and what is done for it.**

A command works in surroundings: the name it is called by, the environment, the configuration text,
and the library that writes diagnostics.  A host reads and makes
files for it, gives a run its time, and shows a session.  What a command wants of its files — which
folders are made for a log file, and which problem is reported — is the same for every host.

Main definitions:

* `TapeMachine.Command.Surroundings`, `TapeMachine.Command.Host` — the surroundings and the host;
* `TapeMachine.Command.Host.makeFolders`, `TapeMachine.Command.Host.openLog` — folders and log
  files.
-/

import TapeMachine.Command.Headless
import TapeMachine.Command.Path

set_option relaxedAutoImplicit false
set_option autoImplicit false

namespace TapeMachine.Command

open Text

/-- What a command finds around it. -/
structure Surroundings where
  /-- The name that the program is called by. -/
  name : String
  /-- The variables of the environment. -/
  environment : String → Option String
  /-- The configuration text. -/
  config : Option String
  /-- The result is printed on a terminal that wants colour. -/
  color : Bool
  /-- The library that writes diagnostics. -/
  library : Log.Library

/-- What a command has done for it. -/
structure Host (m : Type → Type) where
  /-- The text of the file that a path leads to. -/
  readText : String → m (Except FileProblem String)
  /-- A path leads to a folder. -/
  isFolder : String → m Bool
  /-- Make a folder where a path leads. -/
  makeFolder : String → m (Except FileProblem Unit)
  /-- Make an empty file where a path leads, if there is no file there. -/
  openFile : String → m (Except FileProblem Unit)
  /-- Add a text to the end of the file that a path leads to. -/
  append : String → String → m Unit
  /-- Carry on with a job until it is over or its time is. -/
  drive : Job → m (Except Breach Progress)
  /-- Show a session and its source text, or tell why the terminal cannot be used. -/
  showSession : Session → String → Option String → m (Except String Unit)

/-! ### Surroundings -/

/-- The names of all variables that a command looks at. -/
def variableNames : List String :=
  ["BF_CAPACITY", "BF_MODULUS", "BF_RUN_DELAY_MS", "BF_FF_DELAY_MS", "BF_TIMEOUT_MS",
    "BF_MAX_STEPS", "RUST_LOG"]

namespace Surroundings

/-- A number of 64 bits from a variable, blanks at its ends not allowed. -/
def number? (around : Surroundings) (name : String) : Option Nat :=
  (around.environment name).bind fun value => (readNat word64 value.toList).toOption

/-- The text that describes which diagnostics are wanted. -/
def filterText (around : Surroundings) : String := (around.environment "RUST_LOG").getD ""

/-- The diagnostics of a kind are wanted. -/
def admits (around : Surroundings) : Log.Kind → Bool := around.library.admits around.filterText

/-- What is said about the parts of the text that are passed over. -/
def filterRemarks (around : Surroundings) : String := around.library.remarks around.filterText

/-- The text breaks everything off. -/
def filterBreaks (around : Surroundings) : Bool := around.library.breaks around.filterText

end Surroundings

/-! ### Files -/

/-- The report of a log file that cannot be made in a folder that is there. -/
def logProblem (p : FileProblem) : String := s!"failed to create log file: {p.message}"

namespace Host

variable {m : Type → Type} [Monad m]

/-- Make a folder, if it is not there. -/
def ensureFolder (host : Host m) (path : String) : m (Except FileProblem Unit) := do
  match ← host.makeFolder path with
  | .ok _ => return .ok ()
  | .error p => if ← host.isFolder path then return .ok () else return .error p

/-- Make a folder, if it is not there.  The folders that lead to it, the nearest first, are made
when it cannot be made without them. -/
def makeFolders (host : Host m) : List String → m (Except FileProblem Unit)
  | [] => return .ok ()
  | path :: around => do
    match ← host.ensureFolder path with
    | .error .missing =>
      match ← host.makeFolders around with
      | .error p => return .error p
      | .ok _ => host.ensureFolder path
    | result => return result

/-- Make a log file and the folders that lead to it, or tell why it cannot be made.  Folders that
were made before something went wrong stay. -/
def openLog (host : Host m) (log : LogPath) : m (Except String Unit) := do
  match ← host.makeFolders log.folders with
  | .error p => return .error p.message
  | .ok _ => return (← host.openFile log.path).mapError logProblem

/-- Make the log file that a path names, if one is wanted. -/
def prepareLog (host : Host m) (path : Option String) : m (Except String (Option LogPath)) :=
  match path with
  | none => return .ok none
  | some path =>
    match LogPath.read? path with
    | none => return .error (LogPath.problem path)
    | some log => return (← host.openLog log).map fun _ => some log

/-- Write records to the log file, if there is one. -/
def log (host : Host m) (log : Option LogPath) (admits : Log.Kind → Bool)
    (records : List Log.Record) : m Unit :=
  match log with
  | none => return ()
  | some log => host.append log.path (Log.lines admits records)

end Host

end TapeMachine.Command
