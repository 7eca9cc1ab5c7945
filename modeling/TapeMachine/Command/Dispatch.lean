/-
**The commands.**

A command is carried out with the help of a host, which reads files, keeps the log file, and gives a
run its time.  What the commands do is the same for every host.

Main definitions:

* `TapeMachine.Command.headless`, `TapeMachine.Command.viewer` — the two commands;
* `TapeMachine.Command.dispatch` — the program.
-/

import TapeMachine.Command.Headless
import TapeMachine.Command.Host
import TapeMachine.Command.Invocation
import TapeMachine.Command.Usage
import TapeMachine.Config.Settings

set_option relaxedAutoImplicit false
set_option autoImplicit false

namespace TapeMachine.Command

/-- The time limit when none is asked for, in milliseconds. -/
def defaultTimeoutMillis : Nat := 2000

/-- The program that the viewer shows when none is asked for. -/
def welcomeProgram : String :=
  "++++++++[>++++[>++>+++>+++>+<<<<-]>+>+>->>+[<]<-]>>.>---.+++++++..+++.>>.<-.<.+++.------." ++
    "--------.>>+.>++."

/-- The report of code that was given twice. -/
def twiceReport (name : String) (usage : String → String) : Report :=
  .ofStderr 2 <| s!"{name}: cannot use positional code together with --file\n" ++ usage name

/-- The report of a code file that cannot be read. -/
def unreadableReport (name : String) (problem : FileProblem) : Report :=
  .ofProblem name 1 s!"failed to read code file as UTF-8: {problem.message}"

/-- The report of a command that broke off because a contract was broken. -/
def brokenReport : Report := .ofStderr 101 ""

variable {m : Type → Type} [Monad m]

/-- The source text that a command works on: that of the file, or else the given one. -/
def Host.source (host : Host m) (name : String) (file : Option String) (given : String) :
    m (Except Report String) :=
  match file with
  | none => return .ok given
  | some path => return (← host.readText path).mapError (unreadableReport name)

/-! ### Running without a screen -/

/-- The job that a run without a screen amounts to. -/
def RunOptions.job (o : RunOptions) (around : Surroundings) (settings : Config.Settings)
    (source : String) : Job where
  name := around.name
  session := Session.load source settings.machine settings.delays
  maxSteps := o.maxSteps.or (around.number? "BF_MAX_STEPS")
  timeoutMillis := (o.timeoutMillis.or (around.number? "BF_TIMEOUT_MS")).getD defaultTimeoutMillis
  trace := o.trace
  ascii := o.ascii
  color := around.color
  admits := around.admits

/-- The settings of a run without a screen. -/
def RunOptions.settings (o : RunOptions) (around : Surroundings) :
    Except Machine.Invalid Config.Settings :=
  Config.Settings.resolve ⟨o.machine.capacity, o.machine.modulus, none, none⟩ around.config
    around.environment

/-- Run a program without a screen. -/
def headless (host : Host m) (around : Surroundings) (o : RunOptions) : m Report := do
  if o.help then return .ofStderr 0 (Usage.headless around.name)
  if o.file.isNone && o.parts.isEmpty then return .ofStderr 2 (Usage.headless around.name)
  if o.file.isSome && !o.parts.isEmpty then return twiceReport around.name Usage.headless
  match ← host.source around.name o.file (String.join o.parts.reverse) with
  | .error report => return report
  | .ok source =>
    match o.settings around with
    | .error e => return .ofProblem around.name 2 e.message
    | .ok settings =>
      match settings.machine.checked with
      | .error _ => return brokenReport
      | .ok _ =>
        let job := o.job around settings source
        match ← host.drive job with
        | .error _ => return brokenReport
        | .ok progress => return job.report progress

/-! ### The viewer -/

/-- The settings of the viewer. -/
def ViewOptions.settings (o : ViewOptions) (around : Surroundings) :
    Except Machine.Invalid Config.Settings :=
  Config.Settings.resolve
    ⟨o.machine.capacity, o.machine.modulus, o.normalMillis, o.fastMillis⟩ around.config
    around.environment

/-- Show a program in the viewer, with diagnostics to a log file if there is one. -/
def showProgram (host : Host m) (around : Surroundings) (settings : Config.Settings)
    (source : String) (file : Option String) (log : Option LogPath) : m Report :=
  match settings.machine.checked with
  | .error _ => return brokenReport
  | .ok _ => do
    let session := Session.load source settings.machine settings.delays
    host.log log around.admits [Log.loaded session]
    match ← host.showSession session source file with
    | .ok _ => return .ofStderr 0 ""
    | .error reason =>
      host.log log around.admits [Log.terminalFailed reason]
      return .ofProblem around.name 1 s!"terminal error: {reason}"

/-- Open the viewer.  The filter for diagnostics is only looked at once there is a log file. -/
def viewer (host : Host m) (around : Surroundings) (o : ViewOptions) : m Report := do
  if o.help then return .ofStderr 0 (Usage.viewer around.name)
  if o.file.isSome && o.code.isSome then return twiceReport around.name Usage.viewer
  match ← host.source around.name o.file (o.code.getD welcomeProgram) with
  | .error report => return report
  | .ok source =>
    match o.settings around with
    | .error e => return .ofProblem around.name 2 e.message
    | .ok settings =>
      match ← host.prepareLog o.log with
      | .error reason => return .ofProblem around.name 1 s!"failed to open log file: {reason}"
      | .ok log =>
        if log.isSome && around.filterBreaks then return brokenReport
        let report ← showProgram host around settings source o.file log
        return if log.isSome then report.after around.filterRemarks else report

/-! ### The program -/

/-- Carry out what the words of the command line ask for.  A run without a screen looks at the
filter for diagnostics before anything else. -/
def dispatch (host : Host m) (around : Surroundings) (words : List String) : m Report :=
  match Invocation.read words with
  | .error e => return .ofStderr 2 (e.message ++ "\n")
  | .ok (.overview asked) =>
    return .ofStderr (if asked then 0 else 2) (Usage.overview around.name)
  | .ok (.run o) => do
    if around.filterBreaks then return brokenReport
    return (← headless host around o).after around.filterRemarks
  | .ok (.view o) => viewer host around o

end TapeMachine.Command
