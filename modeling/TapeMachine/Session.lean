/-
**Sessions.**

A session holds a program, the state of its run, and the scheduler that may be driving it.  The run
can be stepped by hand, driven by the clock, or taken to its end under a step limit.  Replacing the
program or resetting starts over from the beginning; nothing else ever touches the state.

Main definitions:

* `TapeMachine.Session`, `TapeMachine.Session.load` — a session, and the one a source text starts;
* `TapeMachine.Session.step`, `TapeMachine.Session.tick` — one step by hand, and all that are due;
* `TapeMachine.Session.start`, `TapeMachine.Session.pause`, `TapeMachine.Session.reset`,
  `TapeMachine.Session.replace` — control of the run;
* `TapeMachine.Limits`, `TapeMachine.Session.runObserved`, `TapeMachine.Session.runToEnd` — a run to
  the end under limits, seen through at most a given number of steps.

Main results:

* `TapeMachine.Session.stepDue_zero`, `TapeMachine.Session.follow_done` — where the two loops stop.
-/

import TapeMachine.Scheduler
import TapeMachine.Step

set_option relaxedAutoImplicit false
set_option autoImplicit false

namespace TapeMachine

/-- A program, the state of its run, and what may be driving it. -/
structure Session where
  /-- The program that was loaded last. -/
  program : Program
  /-- The machine it runs on. -/
  machine : Machine
  /-- The delays behind the cadences. -/
  delays : Delays
  /-- The state of the run. -/
  state : State
  /-- What drives the run by the clock. -/
  scheduler : Scheduler
  /-- The number of steps since the start of the run. -/
  taken : Nat
deriving DecidableEq

/-- Limits on a run to the end. -/
structure Limits where
  /-- The largest number of steps, if there is one. -/
  maxSteps : Option Nat
  /-- Someone asked for the run to be given up. -/
  canceled : Bool
deriving DecidableEq

/-- Why a run to the end was given up. -/
inductive Abort where
  /-- The step limit was reached. -/
  | stepLimit (limit : Nat)
  /-- Someone asked for it. -/
  | canceled
deriving DecidableEq

/-- The report of a run that was given up. -/
def Abort.message : Abort → String
  | stepLimit limit => s!"Execution aborted: step limit exceeded ({limit})"
  | canceled => "Execution aborted: cancelled"

/-- How a run to the end went, as far as it was followed. -/
inductive Ending where
  /-- The run is over after this many steps. -/
  | finished (taken : Nat)
  /-- The run was given up. -/
  | aborted (reason : Abort)
  /-- The run was followed this many steps and is not over. -/
  | unfinished (taken : Nat)
deriving DecidableEq

/-- The reason to give a run up before its next step, when `taken` steps were taken so far. -/
def Limits.abort? (l : Limits) (taken : Nat) : Option Abort :=
  if l.canceled then some .canceled
  else
    match l.maxSteps with
    | none => none
    | some limit => if limit ≤ taken then some (.stepLimit limit) else none

namespace Session

/-- A fresh session of a program, not driven by anything. -/
def ofProgram (program : Program) (machine : Machine) (delays : Delays) : Session where
  program := program
  machine := machine
  delays := delays
  state := State.start program machine
  scheduler := Scheduler.idle
  taken := 0

/-- A fresh session of the program that a source text spells. -/
def load (source : String) (machine : Machine) (delays : Delays) : Session :=
  ofProgram (Program.ofSource source) machine delays

/-- The run is driven by the clock. -/
def isRunning (s : Session) : Bool := s.scheduler.isRunning

/-! ### Control of the run -/

/-- One step by hand. -/
def step : Session → Except Breach (Session × Outcome)
  | ⟨program, machine, delays, state, scheduler, taken⟩ =>
    match state.step program with
    | .error b => .error b
    | .ok (state, outcome) =>
      let taken := if outcome.madeProgress then taken + 1 else taken
      .ok (⟨program, machine, delays, state, scheduler, taken⟩, outcome)

/-- Let the clock drive the run; a run that is over is not driven any more. -/
def start (s : Session) (cadence : Cadence) (now : Nat) : Session :=
  if s.state.done then { s with scheduler := s.scheduler.pause }
  else { s with scheduler := s.scheduler.start cadence (s.delays.delay cadence) now }

/-- The clock does not drive the run any more. -/
def pause (s : Session) : Session := { s with scheduler := s.scheduler.pause }

/-- Start the run over. -/
def reset (s : Session) : Session :=
  { s with
    scheduler := s.scheduler.pause
    state := State.start s.program s.machine
    taken := 0 }

/-- Take up the program that another source text spells, and start over. -/
def replace (s : Session) (source : String) : Session :=
  { s with program := Program.ofSource source }.reset

/-! ### Steps driven by the clock -/

/-- At most `n` steps, stopping when the run is over; `applied` were taken before this call. -/
def stepDue : Nat → Nat → Session → Except Breach (Session × Nat)
  | 0, applied, s => .ok (s, applied)
  | n + 1, applied, s =>
    match s.step with
    | .error b => .error b
    | .ok (t, outcome) =>
      if outcome.madeProgress then
        if t.state.done then .ok (t, applied + 1) else stepDue n (applied + 1) t
      else .ok (t, applied)

/-- Take every step that is due at `now`, and tell how many they were.  A run that is over is not
driven any more. -/
def tick (s : Session) (now : Nat) : Except Breach (Session × Nat) :=
  let (scheduler, due) := s.scheduler.due now
  match stepDue due 0 { s with scheduler := scheduler } with
  | .error b => .error b
  | .ok (t, applied) => .ok (if t.state.done then t.pause else t, applied)

/-! ### Runs to the end -/

/-- What an observer of a run has made of it, the session after the run, and how the run went. -/
structure Followed (α : Type) where
  /-- What the observer has made of the run. -/
  seen : α
  /-- The session after the run. -/
  session : Session
  /-- How the run went. -/
  ending : Ending

/-- Step until the run is over or a limit is reached, through at most `fuel` steps, showing every
step to an observer: the state after it and what it did. -/
def follow {α : Type} (limits : Limits) (observe : α → State → Outcome → α) :
    Nat → Nat → α → Session → Except Breach (Followed α)
  | fuel, taken, seen, s =>
    if s.state.done then .ok ⟨seen, s, .finished taken⟩
    else
      match limits.abort? taken with
      | some reason => .ok ⟨seen, s, .aborted reason⟩
      | none =>
        match fuel with
        | 0 => .ok ⟨seen, s, .unfinished taken⟩
        | fuel + 1 =>
          match s.step with
          | .error b => .error b
          | .ok (t, outcome) =>
            follow limits observe fuel (taken + 1) (observe seen t.state outcome) t

/-- A run to the end under limits, shown to an observer and followed through at most `fuel`
steps.  The clock does not drive the run any more. -/
def runObserved {α : Type} (s : Session) (limits : Limits) (observe : α → State → Outcome → α)
    (init : α) (fuel : Nat) : Except Breach (Followed α) :=
  follow limits observe fuel 0 init s.pause

/-- A run to the end under limits, followed through at most `fuel` steps. -/
def runToEnd (s : Session) (limits : Limits) (fuel : Nat) : Except Breach (Session × Ending) :=
  (s.runObserved limits (fun _ _ _ => ()) () fuel).map fun f => (f.session, f.ending)

@[simp] theorem stepDue_zero (applied : Nat) (s : Session) :
    stepDue 0 applied s = .ok (s, applied) := rfl

/-- **A run that is over is finished**, whatever its limits are. -/
theorem follow_done {α : Type} {limits : Limits} {observe : α → State → Outcome → α}
    {fuel taken : Nat} {seen : α} {s : Session} (h : s.state.done = true) :
    follow limits observe fuel taken seen s = .ok ⟨seen, s, .finished taken⟩ := by
  unfold follow
  simp [h]

end Session

end TapeMachine
