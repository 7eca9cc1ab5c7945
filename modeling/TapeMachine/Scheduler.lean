/-
**Ticks at a cadence.**

A scheduler turns the passing of time into ticks.  It never reads a clock: its owner tells it the
time, and it answers how many ticks have fallen due since it was last asked.  The ticks of a run lie
one delay apart and the first lies one delay after the start.  A long silence is not made up for in
full: beyond a largest batch the backlog is dropped, and the run continues one delay from now.

All times are nanoseconds since a common origin.

Main definitions:

* `TapeMachine.Cadence`, `TapeMachine.Delays` — the two cadences and the delays behind them;
* `TapeMachine.Scheduler` — at most one run, and the largest batch;
* `TapeMachine.Scheduler.start`, `TapeMachine.Scheduler.pause`, `TapeMachine.Scheduler.due` — its
  operations.

Main results:

* `TapeMachine.Scheduler.delay_mem` — the delay of a run is between the shortest and the longest;
* `TapeMachine.Scheduler.due_of_lt` — before the deadline nothing is due.
-/

set_option relaxedAutoImplicit false
set_option autoImplicit false

namespace TapeMachine

/-- A named pace of stepping. -/
inductive Cadence where
  | normal
  | fast
deriving DecidableEq, Inhabited

/-- The name of a cadence. -/
def Cadence.label : Cadence → String
  | normal => "normal"
  | fast => "fast"

/-- The delay between steps at each cadence, in nanoseconds. -/
structure Delays where
  /-- The delay at the normal cadence. -/
  normal : Nat
  /-- The delay at the fast cadence. -/
  fast : Nat
deriving DecidableEq

namespace Delays

/-- Nanoseconds in a millisecond. -/
def nanosPerMilli : Nat := 1000000

/-- Delays given in milliseconds. -/
def ofMillis (normal fast : Nat) : Delays := ⟨normal * nanosPerMilli, fast * nanosPerMilli⟩

/-- The delay at the normal cadence in whole milliseconds. -/
def normalMillis (d : Delays) : Nat := d.normal / nanosPerMilli

/-- The delay at the fast cadence in whole milliseconds. -/
def fastMillis (d : Delays) : Nat := d.fast / nanosPerMilli

/-- The normal delay when none is asked for, in milliseconds. -/
def defaultNormalMillis : Nat := 25

/-- The fast delay when none is asked for, in milliseconds. -/
def defaultFastMillis : Nat := 1

/-- The delays when none are asked for. -/
def standard : Delays := ofMillis defaultNormalMillis defaultFastMillis

instance : Inhabited Delays := ⟨standard⟩

/-- The delay at a cadence. -/
def delay (d : Delays) : Cadence → Nat
  | .normal => d.normal
  | .fast => d.fast

end Delays

/-- A run that is being paced. -/
structure Pace where
  /-- The cadence it was started at. -/
  cadence : Cadence
  /-- The time between two ticks. -/
  delay : Nat
  /-- When the next tick falls due. -/
  deadline : Nat
deriving DecidableEq

/-- At most one paced run, and the largest number of ticks handed out at once. -/
structure Scheduler where
  /-- The run that is being paced. -/
  active : Option Pace
  /-- The largest batch of ticks. -/
  maxBatch : Nat
deriving DecidableEq

namespace Scheduler

/-- The largest batch when none is asked for. -/
def defaultMaxBatch : Nat := 4096

/-- The shortest delay that is honoured: a tenth of a millisecond. -/
def minDelay : Nat := 100000

/-- The longest delay that is honoured: an hour. -/
def maxDelay : Nat := 3600000000000

/-- A tick count is multiplied with the delay as a number of 32 bits, which lies below this one. -/
def tickWord : Nat := 4294967296

/-- A scheduler without a run. -/
def idle : Scheduler := ⟨none, defaultMaxBatch⟩

instance : Inhabited Scheduler := ⟨idle⟩

/-- A scheduler without a run that hands out at most `n` ticks at once, and at least one. -/
def ofMaxBatch (n : Nat) : Scheduler := ⟨none, max n 1⟩

/-- The delay that is honoured when `delay` is asked for. -/
def clampDelay (delay : Nat) : Nat := max minDelay (min delay maxDelay)

/-- No run is paced any more. -/
def pause (s : Scheduler) : Scheduler := { s with active := none }

/-- A run is paced. -/
def isRunning (s : Scheduler) : Bool := s.active.isSome

/-- The cadence of the run. -/
def cadence? (s : Scheduler) : Option Cadence := s.active.map Pace.cadence

/-- When the next tick falls due. -/
def deadline? (s : Scheduler) : Option Nat := s.active.map Pace.deadline

/-- Pace a new run, in place of any other; its first tick falls due one delay after `now`. -/
def start (s : Scheduler) (cadence : Cadence) (delay now : Nat) : Scheduler :=
  let d := clampDelay delay
  { s with active := some ⟨cadence, d, now + d⟩ }

/-- The number of ticks that have fallen due up to `now`, and the scheduler after handing them out.
A batch that is too large is cut, and the rest of the backlog is dropped. -/
def due (s : Scheduler) (now : Nat) : Scheduler × Nat :=
  match s.active with
  | none => (s, 0)
  | some run =>
    if now < run.deadline then (s, 0)
    else
      let owed := (now - run.deadline) / run.delay + 1
      if s.maxBatch < owed then
        ({ s with active := some { run with deadline := now + run.delay } }, s.maxBatch)
      else
        ({ s with active := some { run with
            deadline := run.deadline + run.delay * (owed % tickWord) } }, owed)

theorem delay_mem (delay : Nat) : minDelay ≤ clampDelay delay ∧ clampDelay delay ≤ maxDelay := by
  have h : minDelay ≤ maxDelay := by decide
  unfold clampDelay
  omega

theorem clampDelay_pos (delay : Nat) : 0 < clampDelay delay :=
  Nat.lt_of_lt_of_le (by decide) (delay_mem delay).1

/-- **Before the deadline nothing is due.** -/
theorem due_of_lt {s : Scheduler} {run : Pace} {now : Nat} (h : s.active = some run)
    (hn : now < run.deadline) : s.due now = (s, 0) := by
  simp [due, h, hn]

@[simp] theorem due_of_idle {s : Scheduler} {now : Nat} (h : s.active = none) :
    s.due now = (s, 0) := by
  simp [due, h]

/-- All schedulers of the standard batch are alike once they pace no run. -/
theorem pause_eq_idle {s : Scheduler} (h : s.maxBatch = defaultMaxBatch) : s.pause = idle := by
  simp only [pause, idle, h]

@[simp] theorem maxBatch_due (s : Scheduler) (now : Nat) :
    (s.due now).1.maxBatch = s.maxBatch := by
  unfold due
  split
  · rfl
  · split
    · rfl
    · dsimp only
      split <;> rfl

end Scheduler

end TapeMachine
