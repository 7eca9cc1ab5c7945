/-
**What a run without a screen reports.**

The report of a run is put together from three accounts of it: how the loop that follows the run
came to its end, the values in the log of the state, and the fault in that log.  Here they are shown
to agree.  With `T` steps left of the run and a limit of `N` steps, the run takes the lesser of
both; the values that these steps emit are printed, however the run ends; and there is a message
when `N` is less than `T`, when one of the steps faults, and in no other case.

A fault on the very last step that the limit allows is a fault, because a run that is over is not
given up.  A run that is given up is not over, so that none of its steps faulted; hence at most one
of the two messages is due, and which one can be told from its text.

Main definitions:

* `TapeMachine.Outcome.emitted?` — the value that a step emits;
* `TapeMachine.Command.printed`, `TapeMachine.Command.limitReport` — the printed values, and the
  report of a step limit;
* `TapeMachine.Command.EndsWith` — how a run ends, by its steps;
* `TapeMachine.Command.Host.Runs` — a host that runs a job for a command.

Main results:

* `TapeMachine.State.Trace.emitted`, `TapeMachine.State.Trace.fault?_eq_some_iff` — **the log tells
  what the steps emitted**, and which of them faulted;
* `TapeMachine.Command.Job.Reaches.endsWith_verdict` — **the verdict on a run**;
* `TapeMachine.Command.Host.Runs.headless_eq` — what the command does with its host;
* `TapeMachine.Command.headless_run_reports_its_steps` — **the report of a run without a screen**.
-/

import TapeMachine.Command.Dispatch
import TapeMachine.Command.Filter
import TapeMachine.Proofs.Caret
import TapeMachine.Proofs.Following

set_option relaxedAutoImplicit false
set_option autoImplicit false

namespace TapeMachine

/-! ### The log, by the steps -/

/-- The value that a step emits, if it emits one. -/
def Outcome.emitted? : Outcome → Option UInt8
  | .applied _ _ (.emitted v) _ => some v
  | _ => none

namespace State

variable {p : Program} {m : Machine} {s t u : State} {calls : List (State × Outcome)}

theorem emitted_start (p : Program) (m : Machine) : (start p m).emitted = [] := rfl

theorem emitted_of_step {o : Outcome} (h : s.step p = .ok (t, o)) :
    t.emitted = s.emitted ++ o.emitted?.toList := by
  have hpush : ∀ e : Event, (s.log.push e).toList.filterMap Event.value? =
      s.emitted ++ e.value?.toList := by
    intro e
    rw [Array.toList_push, List.filterMap_append, emitted]
    cases e <;> rfl
  cases step_eq_ok_iff.mp h with
  | frozen ended => exact (List.append_nil _).symm
  | faulted going fetch read effect => exact hpush _
  | @applied x cell e going fetch read effect inside =>
      cases e with
      | emitted v => exact hpush _
      | moved _ | changed _ _ _ | ignored | jumped _ | passed => exact (List.append_nil _).symm

/-- **The log tells what the steps emitted**, in order. -/
theorem Trace.emitted (h : Trace p s calls u) :
    u.emitted = s.emitted ++ calls.filterMap fun c => c.2.emitted? := by
  induction h with
  | nil s => exact (List.append_nil _).symm
  | @cons s t u o rest going step tail ih =>
      rw [ih, emitted_of_step step, List.append_assoc]
      cases ho : o.emitted? with
      | none => simp [ho]
      | some v => simp [ho]

/-- The log tells a fault exactly when one of the steps faulted. -/
theorem Trace.fault?_eq_some_iff (h : Trace p (start p m) calls u) {f : Unmatched} :
    u.fault? = some f ↔ ∃ r, (r, Outcome.faulted f) ∈ calls := by
  rw [State.fault?_eq_some_iff h.after]
  constructor
  · rintro ⟨k, hk, t, ht, hstep⟩
    obtain ⟨-, r, hr, hcall, -⟩ := h.step_getElem hk
    rw [ht] at hr
    cases hr
    have hcall := Except.ok.inj (hstep.symm.trans hcall)
    exact ⟨u, hcall ▸ List.getElem_mem hk⟩
  · rintro ⟨r, hmem⟩
    obtain ⟨k, hk, hcall⟩ := List.getElem_of_mem hmem
    obtain ⟨hafter, t, ht, hstep, -⟩ := h.step_getElem hk
    rw [hcall] at hafter hstep
    -- a step that faulted is the last one, so it led to the end of the trace
    have hdone : r.done = true := by
      rw [(eq_halt_of_step hstep).2]
      rfl
    have hend := after_add hafter (calls.length - (k + 1))
    rw [Nat.add_sub_cancel' hk, h.after, after_of_done hdone] at hend
    cases hend
    exact ⟨k, hk, t, ht, hstep⟩

/-- A step that faulted was the last one. -/
theorem Trace.done_of_faulted (h : Trace p (start p m) calls u) {f : Unmatched}
    (hf : ∃ r, (r, Outcome.faulted f) ∈ calls) : u.done = true := by
  obtain ⟨_, -, t, -, hstep⟩ := (State.fault?_eq_some_iff h.after).mp (h.fault?_eq_some_iff.mpr hf)
  rw [(eq_halt_of_step hstep).2]
  rfl

/-! ### How a run under a limit ends -/

variable {l : Limits}

/-- **How a run ends that took as many steps as are left or as its limit allows**: it is over, or it
is given up and more steps are left. -/
theorem Trace.ending_of_length (h : Trace p s calls u) (hc : l.canceled = false)
    (hlen : (calls.length : ℕ∞) = min (s.stepsLeft p) l.allowance) :
    (u.done = true ∧ s.stepsLeft p ≤ l.allowance ∧
        Ending.of l calls.length u = .finished calls.length) ∨
      u.done = false ∧ ∃ n, l.maxSteps = some n ∧ (n : ℕ∞) < s.stepsLeft p ∧
        Ending.of l calls.length u = .aborted (.stepLimit n) := by
  cases hd : u.done with
  | true =>
      refine .inl ⟨rfl, ?_, by rw [Ending.of, if_pos hd]⟩
      rw [← h.length_eq hd] at hlen
      exact min_eq_left_iff.mp hlen.symm
  | false =>
      have hlt : l.allowance < s.stepsLeft p := by
        refine not_le.mp ?_
        intro hle
        rw [min_eq_left hle] at hlen
        rw [h.done_of_eq hlen.symm] at hd
        cases hd
      rw [min_eq_right hlt.le] at hlen
      cases hmax : l.maxSteps with
      | none =>
          rw [Limits.allowance_of_none hmax] at hlen
          exact absurd hlen (ENat.natCast_ne_top _)
      | some n =>
          rw [Limits.allowance_of_some hmax] at hlen hlt
          have hn : calls.length = n := Nat.cast_inj.mp hlen
          have hnot : ¬u.done = true := by
            rw [hd]
            exact Bool.false_ne_true
          refine .inr ⟨rfl, n, rfl, hlt, ?_⟩
          rw [Ending.of, if_neg hnot, Limits.abort?_of_le hc hmax hn.ge]

end State

namespace Command

open State (Trace)

/-! ### The texts of a report -/

/-- The emitted values as they are printed: a line for each, or the characters and a newline. -/
def printed (ascii : Bool) (values : List UInt8) : Printed :=
  if ascii then .bytes (values ++ [10])
  else .text (String.join (values.map fun v => ": " ++ toString v.toNat ++ "\n"))

/-- The report of a run that was given up at its step limit. -/
def limitReport (name : String) (limit : Nat) : String :=
  s!"{name}: {(Abort.stepLimit limit).message}\n"

theorem printValues_of_plain {job : Job} (h : job.color = false) (s : State) :
    job.printValues s = printed job.ascii s.emitted := by
  rw [Job.printValues, h]
  rfl

theorem eq_of_toString_eq {a b : Nat} (h : toString a = toString b) : a = b := by
  have hread : ∀ n : Nat, Nat.ofDigitChars 10 (toString n).toList 0 = n := by
    intro n
    rw [Nat.toString_eq_repr, Nat.repr_eq_ofList_toDigits, String.toList_ofList,
      Nat.ofDigitChars_toDigits (by decide) (by decide)]
  rw [← hread a, h, hread]

theorem limitReport_eq_iff {name : String} {a b : Nat} :
    limitReport name a = limitReport name b ↔ a = b := by
  refine ⟨?_, congrArg (limitReport name)⟩
  intro h
  unfold limitReport Abort.message at h
  have hmessage := (String.append_right_inj _).mp ((String.append_left_inj _).mp h)
  exact eq_of_toString_eq
    ((String.append_right_inj _).mp ((String.append_left_inj _).mp hmessage))

theorem eq_of_faultLine_eq {name : String} {u v : Unmatched}
    (h : faultLine name u = faultLine name v) : u = v := by
  obtain ⟨i, a⟩ := u
  obtain ⟨j, b⟩ := v
  have htext : ∀ t : String, toString t = t := fun _ => rfl
  have hquoted : ∀ s : Side, s.quoted.toList = ['\'', s.toChar, '\''] := fun _ =>
    String.toList_ofList
  have hlist := congrArg String.toList h
  simp only [faultLine, htext, hquoted, String.toList_append, List.append_assoc,
    List.append_cancel_left_eq, List.cons_append, List.nil_append, List.cons.injEq,
    true_and] at hlist
  obtain ⟨hside, hplace⟩ := hlist
  have hab : a = b := by
    cases a <;> cases b <;> first | rfl | exact absurd hside (by decide)
  rw [hab, eq_of_toString_eq (String.toList_inj.mp hplace)]

theorem toList_faultLine (name : String) (u : Unmatched) :
    (faultLine name u).toList = name.toList ++ (faultLine "" u).toList := by
  have htext : ∀ t : String, toString t = t := fun _ => rfl
  simp only [faultLine, htext, String.toList_append, List.append_assoc]
  rfl

theorem faultReport_eq_iff {name : String} {p : Program} {u v : Unmatched} :
    faultReport name p u = faultReport name p v ↔ u = v := by
  refine ⟨?_, congrArg (faultReport name p)⟩
  intro h
  -- the name of the program, which can be any text, is left out to tell the lines apart
  have hname : ∀ w, (faultReport name p w).toList = name.toList ++ (faultReport "" p w).toList := by
    intro w
    rw [toList_faultReport, toList_faultReport, toList_faultLine, List.append_assoc]
  have hlist := congrArg String.toList h
  rw [hname, hname, List.append_cancel_left_eq] at hlist
  have hlines := congrArg Text.lines hlist
  rw [lines_faultReport, lines_faultReport, lines_faultLine (by decide),
    lines_faultLine (by decide)] at hlines
  exact eq_of_faultLine_eq (String.toList_inj.mp (List.cons.inj hlines).1)

/-! The two messages differ behind the name of the program. -/

theorem limitReport_getElem? (name : String) (n : Nat) :
    (limitReport name n).toList[name.toList.length + 2]? = some 'E' := by
  have htext : ∀ t : String, toString t = t := fun _ => rfl
  unfold limitReport Abort.message
  simp only [htext, String.toList_append, List.append_assoc]
  rw [List.getElem?_append_right (Nat.le_add_right _ _), Nat.add_sub_cancel_left]
  rfl

theorem faultReport_getElem? (name : String) (p : Program) (u : Unmatched) :
    (faultReport name p u).toList[name.toList.length + 2]? = some 'R' := by
  have htext : ∀ t : String, toString t = t := fun _ => rfl
  rw [toList_faultReport, faultLine]
  simp only [htext, String.toList_append, List.append_assoc]
  rw [List.getElem?_append_right (Nat.le_add_right _ _), Nat.add_sub_cancel_left]
  rfl

theorem limitReport_ne_faultReport {name : String} {n : Nat} {p : Program} {u : Unmatched} :
    limitReport name n ≠ faultReport name p u := by
  intro h
  have hchar := limitReport_getElem? name n
  rw [h, faultReport_getElem?] at hchar
  exact absurd hchar (by decide)

theorem limitReport_ne_empty {name : String} {n : Nat} : limitReport name n ≠ "" := by
  intro h
  have hchar := limitReport_getElem? name n
  rw [h] at hchar
  cases hchar

theorem faultReport_ne_empty {name : String} {p : Program} {u : Unmatched} :
    faultReport name p u ≠ "" := by
  intro h
  have hchar := faultReport_getElem? name p u
  rw [h] at hchar
  cases hchar

/-! ### The verdict -/

/-- How a run of `p` ends that took the steps `calls`, with `left` steps to take: with which exit
code, and with which message in the name of the program. -/
structure EndsWith (name : String) (p : Program) (limits : Limits) (left : ℕ∞)
    (calls : List (State × Outcome)) (exit : Nat) (message : String) : Prop where
  /-- There are two exit codes. -/
  code : exit = 0 ∨ exit = 1
  /-- The run succeeds when it is over within its limit and no step faulted. -/
  success : exit = 0 ↔ left ≤ limits.allowance ∧ ∀ f, ¬∃ r, (r, Outcome.faulted f) ∈ calls
  /-- The limit is reported when there are more steps left than it allows. -/
  limit : ∀ n, message = limitReport name n ↔ limits.maxSteps = some n ∧ (n : ℕ∞) < left
  /-- A fault is reported when a step faulted with it. -/
  fault : ∀ f, message = faultReport name p f ↔ ∃ r, (r, Outcome.faulted f) ∈ calls
  /-- There is no other message. -/
  silent : message = "" ↔ exit = 0

section Verdict

variable {name : String} {p : Program} {l : Limits} {calls : List (State × Outcome)}

theorem not_limit_of_le {left : ℕ∞} (h : left ≤ l.allowance) (n : Nat) :
    ¬(l.maxSteps = some n ∧ (n : ℕ∞) < left) := by
  rintro ⟨hmax, hlt⟩
  rw [Limits.allowance_of_some hmax] at h
  exact absurd (lt_of_lt_of_le hlt h) (lt_irrefl _)

theorem endsWith_success {left : ℕ∞} (hle : left ≤ l.allowance)
    (hnone : ∀ f, ¬∃ r, (r, Outcome.faulted f) ∈ calls) : EndsWith name p l left calls 0 "" where
  code := .inl rfl
  success := iff_of_true rfl ⟨hle, hnone⟩
  limit n := iff_of_false limitReport_ne_empty.symm (not_limit_of_le hle n)
  fault f := iff_of_false faultReport_ne_empty.symm (hnone f)
  silent := iff_of_true rfl rfl

theorem endsWith_fault {left : ℕ∞} {f : Unmatched} (hle : left ≤ l.allowance)
    (hfault : ∀ g, (∃ r, (r, Outcome.faulted g) ∈ calls) ↔ f = g) :
    EndsWith name p l left calls 1 (faultReport name p f) where
  code := .inr rfl
  success := iff_of_false Nat.one_ne_zero fun h => h.2 f ((hfault f).mpr rfl)
  limit n := iff_of_false limitReport_ne_faultReport.symm (not_limit_of_le hle n)
  fault g := faultReport_eq_iff.trans (hfault g).symm
  silent := iff_of_false faultReport_ne_empty Nat.one_ne_zero

theorem endsWith_limit {left : ℕ∞} {n : Nat} (hmax : l.maxSteps = some n) (hlt : (n : ℕ∞) < left)
    (hnone : ∀ f, ¬∃ r, (r, Outcome.faulted f) ∈ calls) :
    EndsWith name p l left calls 1 (limitReport name n) where
  code := .inr rfl
  success := by
    refine iff_of_false Nat.one_ne_zero ?_
    rintro ⟨hle, -⟩
    exact not_limit_of_le hle n ⟨hmax, hlt⟩
  limit k := by
    rw [limitReport_eq_iff, hmax, Option.some.injEq]
    refine ⟨?_, And.left⟩
    rintro rfl
    exact ⟨rfl, hlt⟩
  fault f := iff_of_false limitReport_ne_faultReport (hnone f)
  silent := iff_of_false limitReport_ne_empty Nat.one_ne_zero

end Verdict

/-! ### The report -/

/-- When errors are admitted and nothing else, steps leave no diagnostics. -/
theorem stepped?_of_errors {admits : Log.Kind → Bool}
    (h : ∀ k, admits k = true → k.level = .error) (s : State) (o : Outcome) :
    Log.stepped? (.ofAdmitted admits) s o = none := by
  have hstep : admits .step = false := by
    rw [Bool.eq_false_iff]
    intro hk
    cases h _ hk
  have hbracket : admits .unmatchedBracket = false := by
    rw [Bool.eq_false_iff]
    intro hk
    cases h _ hk
  cases o <;> simp [Log.stepped?, Log.StepFilter.wants, Log.StepFilter.ofAdmitted, hstep, hbracket]

theorem foldl_records {job : Job} {filter : Log.StepFilter}
    (hquiet : ∀ s o, Log.stepped? filter s o = none) (calls : List (State × Outcome))
    (t : Transcript) :
    (calls.foldl (fun t c => t.observe job filter c.1 c.2) t).records = t.records := by
  induction calls generalizing t with
  | nil => rfl
  | cons c calls ih =>
      rw [List.foldl_cons, ih, Transcript.observe, hquiet]
      rfl

theorem report_of_ended {job : Job} {q : Progress} (h : ∀ k, q.ending ≠ .unfinished k) :
    job.report q =
      ⟨(job.verdict q).1, job.printResult q, job.diagnostics q ++ (job.verdict q).2⟩ := by
  unfold Job.report
  cases he : q.ending with
  | unfinished k => exact absurd he (h k)
  | finished _ | aborted _ => rfl

namespace Job.Reaches

variable {job : Job} {p : Program} {m : Machine} {calls : List (State × Outcome)} {q : Progress}

theorem printValues (h : job.Reaches p m calls q) (plain : job.color = false) :
    job.printValues q.session.state =
      printed job.ascii (calls.filterMap fun c => c.2.emitted?) := by
  rw [printValues_of_plain plain, h.trace.emitted, State.emitted_start, List.nil_append]

theorem diagnostics_eq (h : job.Reaches p m calls q)
    (hf : ∀ k, job.admits k = true → k.level = .error) : job.diagnostics q = "" := by
  have hloaded : job.admits .programLoaded = false := by
    rw [Bool.eq_false_iff]
    intro hk
    cases hf _ hk
  have hlines : Log.lines job.admits [Log.loaded job.session] = "" := by
    simp [Log.lines, Log.loaded, hloaded]
  rw [Job.diagnostics, h.seen, hlines, foldl_records (stepped?_of_errors hf)]
  rfl

/-- **The report of a run** that took as many steps as are left or as its limit allows. -/
theorem report_eq (h : job.Reaches p m calls q)
    (hlen : (calls.length : ℕ∞) = min ((State.start p m).stepsLeft p) job.limits.allowance) :
    job.report q =
      ⟨(job.verdict q).1, job.printResult q, job.diagnostics q ++ (job.verdict q).2⟩ := by
  refine report_of_ended ?_
  intro k hk
  rw [h.ending] at hk
  rcases h.trace.ending_of_length rfl hlen with ⟨-, -, hend⟩ | ⟨-, n, -, -, hend⟩
  · rw [hend] at hk
    cases hk
  · rw [hend] at hk
    cases hk

/-- **The verdict on a run** that took as many steps as are left or as its limit allows. -/
theorem endsWith_verdict (h : job.Reaches p m calls q)
    (hlen : (calls.length : ℕ∞) = min ((State.start p m).stepsLeft p) job.limits.allowance) :
    EndsWith job.name p job.limits ((State.start p m).stepsLeft p) calls (job.verdict q).1
      (job.verdict q).2 := by
  have he := h.ending
  rcases h.trace.ending_of_length rfl hlen with ⟨-, hle, hend⟩ | ⟨hd, n, hmax, hlt, hend⟩
  · rw [hend] at he
    cases hf : q.session.state.fault? with
    | none =>
        have hv : job.verdict q = (0, "") := by
          simp only [verdict, he, hf]
        rw [hv]
        refine endsWith_success hle ?_
        intro f
        rw [← h.trace.fault?_eq_some_iff, hf]
        intro hnone
        cases hnone
    | some f =>
        have hv : job.verdict q = (1, faultReport job.name p f) := by
          simp only [verdict, he, hf, h.program]
        rw [hv]
        refine endsWith_fault hle ?_
        intro g
        rw [← h.trace.fault?_eq_some_iff, hf, Option.some.injEq]
  · have hv : job.verdict q = (1, limitReport job.name n) := by
      rw [verdict, he, hend]
      rfl
    rw [hv]
    refine endsWith_limit hmax hlt ?_
    intro f hf
    rw [h.trace.done_of_faulted hf] at hd
    cases hd

end Job.Reaches

/-! ### The command -/

/-- A host runs a job for a command: the command is told where its code is and asks for no help, the
code is there, its settings hold, the tape fits in memory, and the host has carried on with the job
as far as told. -/
structure Host.Runs {n : Type → Type} [Monad n] (host : Host n) (around : Surroundings)
    (o : RunOptions) (job : Job) (q : Progress) : Prop where
  /-- No help is asked for. -/
  help : o.help = false
  /-- The code is given once. -/
  once : o.file.isSome = o.parts.isEmpty
  /-- The job is made of the code and the settings. -/
  asked : ∃ source settings, host.source around.name o.file (String.join o.parts.reverse) =
      pure (.ok source) ∧
    o.settings around = .ok settings ∧ settings.machine.capacity ≤ longestLength ∧
    o.job around settings source = job
  /-- The host has carried on with the job. -/
  driven : host.drive job = pure (.ok q)

/-- **What the command does with its host**: it reports on the job. -/
theorem Host.Runs.headless_eq {n : Type → Type} [Monad n] [LawfulMonad n] {host : Host n}
    {around : Surroundings} {o : RunOptions} {job : Job} {q : Progress}
    (h : host.Runs around o job q) : headless host around o = pure (job.report q) := by
  obtain ⟨source, settings, hsource, hsettings, hfits, rfl⟩ := h.asked
  have hchecked : settings.machine.checked = .ok settings.machine := by
    rw [Machine.checked, checkedLength_of_le hfits]
    rfl
  have hgiven : (o.file.isNone && o.parts.isEmpty) = false := by
    rw [← h.once]
    cases o.file <;> rfl
  have htwice : (o.file.isSome && !o.parts.isEmpty) = false := by
    rw [← h.once]
    cases o.file <;> rfl
  simp only [headless, h.help, hgiven, htwice, hsource, hsettings, hchecked, h.driven, pure_bind,
    Bool.false_eq_true, if_false]

/-- **The report of a run without a screen.**  The run takes as many steps as are left of it or as
its limit allows, whichever is less; this has to be finite.  Once it was carried on with so far, in
however many bits, the values that these steps emitted are printed, in order and in either form, and
nothing else.  Behind the diagnostics, of which there are none while only errors are admitted, the
message tells how the run ended: the limit is reported exactly when more steps were left, a fault
exactly when one of the steps faulted with it, and the exit code is zero exactly when neither is the
case.  This is what the command reports when its host runs the job. -/
theorem headless_run_reports_its_steps {p : Program} {m : Machine} {d : Delays} (job : Job)
    (fresh : job.session = .ofProgram p m d) (plain : job.color = false)
    (untraced : job.trace = false)
    (ends : min ((State.start p m).stepsLeft p) job.limits.allowance ≠ ⊤) :
    ∃ calls u, Trace p (.start p m) calls u ∧
      (calls.length : ℕ∞) = min ((State.start p m).stepsLeft p) job.limits.allowance ∧
      ∀ first looks, calls.length ≤ first + looks.sum →
        ∃ q message, job.drive first looks = .ok q ∧
          (job.report q).stdout = printed job.ascii (calls.filterMap fun c => c.2.emitted?) ∧
          (job.report q).stderr = job.diagnostics q ++ message ∧
          ((∀ k, job.admits k = true → k.level = .error) → job.diagnostics q = "") ∧
          EndsWith job.name p job.limits ((State.start p m).stepsLeft p) calls (job.report q).exit
            message ∧
          ∀ {n : Type → Type} [Monad n] [LawfulMonad n] (host : Host n) (around : Surroundings)
            (o : RunOptions), host.Runs around o job q →
              headless host around o = pure (job.report q) := by
  obtain ⟨k, hk⟩ := ENat.ne_top_iff_exists.mp ends
  obtain ⟨q', calls, -, h', hlen⟩ := Job.exists_drive fresh k []
  rw [List.sum_nil, Nat.add_zero, ← hk, min_self, hk] at hlen
  refine ⟨calls, q'.session.state, h'.trace, hlen, ?_⟩
  intro first looks henough
  obtain ⟨q, calls', hdrive, h, hlen'⟩ := Job.exists_drive fresh first looks
  -- the run takes these steps, however far beyond its end it is followed
  rw [← hlen, min_eq_right (Nat.cast_le.mpr henough), Nat.cast_inj] at hlen'
  obtain ⟨rfl, -⟩ := h.trace.unique h'.trace hlen'
  have hreport := h.report_eq hlen
  refine ⟨q, (job.verdict q).2, hdrive, ?_, ?_, h.diagnostics_eq, ?_, ?_⟩
  · rw [hreport, ← h.printValues plain, Job.printResult, untraced]
    rfl
  · rw [hreport]
  · rw [hreport]
    exact h.endsWith_verdict hlen
  · intro n _ _ host around o hruns
    exact hruns.headless_eq

/-- The last of the three steps that are allowed faults; the run is not given up.  The host has no
files and carries on with a job through three steps. -/
theorem fault_on_last_step_allowed :
    let p := Program.ofSource "+.]"
    let around : Surroundings := ⟨"bf", fun _ => none, none, false, .standard⟩
    let o : RunOptions :=
      { RunOptions.initial with ascii := true, parts := ["+.]"], maxSteps := some 3 }
    let job := o.job around ⟨.standard, .standard⟩ "+.]"
    let host : Host Id := {
      readText := fun _ => .error .missing
      isFolder := fun _ => false
      makeFolder := fun _ => .error .missing
      openFile := fun _ => .error .missing
      append := fun _ _ => ()
      drive := fun job => job.drive 3 []
      showSession := fun _ _ _ => .ok () }
    job.session = .ofProgram p .standard .standard ∧ job.color = false ∧ job.trace = false ∧
      min ((State.start p .standard).stepsLeft p) job.limits.allowance ≠ ⊤ ∧
      headless host around o = ⟨1, .bytes [1, 10], faultReport "bf" p ⟨2, .closing⟩⟩ := by
  intro p around o job host
  have hlimit : job.limits.allowance = (3 : ℕ) := rfl
  have ends : min ((State.start p .standard).stepsLeft p) job.limits.allowance ≠ ⊤ := by
    rw [hlimit]
    exact ne_top_of_le_ne_top (ENat.natCast_ne_top 3) (min_le_right _ _)
  refine ⟨rfl, rfl, rfl, ends, ?_⟩
  obtain ⟨calls, u, htrace, hlen, hreport⟩ :=
    headless_run_reports_its_steps job rfl rfl rfl ends
  have henough : calls.length ≤ 3 := by
    have hle : (calls.length : ℕ∞) ≤ (3 : ℕ) := by
      rw [hlen, hlimit]
      exact min_le_right _ _
    exact Nat.cast_le.mp hle
  obtain ⟨q, message, hdrive, -, -, hquiet, -, hheadless⟩ := hreport 3 [] henough
  have hruns : host.Runs around o job q :=
    ⟨rfl, rfl, ⟨"+.]", ⟨.standard, .standard⟩, rfl, rfl, by decide, rfl⟩, hdrive⟩
  have hended : q.ending = .finished 3 ∧ job.verdict q = (1, faultReport "bf" p ⟨2, .closing⟩) ∧
      job.printResult q = .bytes [1, 10] := by
    cases hdrive
    exact ⟨rfl, rfl, rfl⟩
  obtain ⟨hending, hverdict, hprinted⟩ := hended
  have hover : ∀ k, q.ending ≠ .unfinished k := by
    intro k hk
    rw [hending] at hk
    cases hk
  rw [hheadless host around o hruns, report_of_ended hover, hverdict, hprinted,
    hquiet fun _ => Log.Library.level_of_admits_standard, String.empty_append]
  rfl

end Command

end TapeMachine
