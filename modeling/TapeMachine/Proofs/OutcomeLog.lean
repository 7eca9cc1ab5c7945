/-
**Outcomes are a complete log.**

What a step did to the state can be read off its outcome.  From the state before the step, the
length of the program and the outcome alone, the state after it can be put together: nobody has to
look at the instruction or to scan for a partner.  So the outcomes of a run are a log of it, and
folding them over the state the run started in gives the state it ended in.

The reading of an outcome is written down here apart from the step: it changes what the outcome
names and nothing else.  In particular only an effect that moves the pointer touches the marks,
although a step takes the pointer into them every time; both agree because the pointer of a valid
state lies between its marks.

Main definitions:

* `TapeMachine.State.replay` — the state after a step, by the outcome of the step;
* `TapeMachine.Outcome.TrueOf` — what an outcome says of the state before the step is true.

Main results:

* `TapeMachine.State.Valid.replay_of_step` — **a step does what its outcome tells**;
* `TapeMachine.State.trueOf_of_step` — what the outcome tells of the state before is true;
* `TapeMachine.State.Trace.foldl_replay` — folding the outcomes of a trace leads to its end;
* `TapeMachine.State.outcomes_are_a_complete_log` — both, for every step of every run, and for
  everything an observer of a run sees.
-/

import TapeMachine.Proofs.BudgetedRun

set_option relaxedAutoImplicit false
set_option autoImplicit false

namespace TapeMachine

/-! ### Reading an outcome -/

/-- Where control continues after the instruction at a position, by its effect: behind the partner
of a bracket that jumped, and else behind the instruction. -/
def Effect.continuation (position : Nat) : Effect → Nat
  | .jumped partner => partner + 1
  | _ => position + 1

theorem Effect.continuation_eq_next (position : Nat) (e : Effect) :
    e.continuation position = e.next position := by
  cases e <;> rfl

/-- What an effect tells of the cell it found is true of the state. -/
def Effect.TrueOf (s : State) : Effect → Prop
  | .changed cell before _ => cell = s.pointer ∧ s.tape.get? cell = some before
  | .emitted value => s.cell? = some value
  | .moved _ | .ignored | .jumped _ | .passed => True

/-- What an outcome tells of the program and of the state before the step is true. -/
def Outcome.TrueOf (p : Program) (s : State) : Outcome → Prop
  | .frozen => s.done = true
  | .faulted u => s.done = false ∧ u.position = s.position
  | .applied position instruction effect halted =>
    s.done = false ∧ position = s.position ∧ p.get? s.position = some instruction ∧
      effect.TrueOf s ∧ (halted = true ↔ effect.continuation position = p.length)

namespace State

/-- The state with its data changed as an effect tells; only a movement touches the marks. -/
def absorb (s : State) : Effect → State
  | .moved target =>
    { s with
      pointer := target
      lowest := min s.lowest target
      highest := max s.highest target }
  | .changed cell _ after => { s with tape := s.tape.set cell after }
  | .emitted value => { s with log := s.log.push (.value value) }
  | .ignored | .jumped _ | .passed => s

/-- The state after a step: from the state before it, the length of the program, and what the step
did. -/
def replay (length : Nat) (s : State) : Outcome → State
  | .frozen => s
  | .faulted u =>
    { s with log := s.log.push (.error u), position := u.position, done := true }
  | .applied position _ effect halted =>
    if halted then { s.absorb effect with position := length - 1, done := true }
    else { s.absorb effect with position := effect.continuation position }

/-! ### One step -/

/-- In a valid state the marks take in the pointer already, so that moving on widens them only
after a movement. -/
theorem Fits.proceed_perform {m : Machine} {s : State} (h : s.Fits m) (e : Effect)
    (length next : Nat) :
    (s.perform e).proceed length next =
      { s.absorb e with
        position := if next = length then length - 1 else next
        done := next = length } := by
  have hlow : min s.lowest s.pointer = s.lowest := Nat.min_eq_left h.lowest_le
  have hhigh : max s.highest s.pointer = s.highest := Nat.max_eq_left h.le_highest
  cases e with
  | moved target => rfl
  | changed _ _ _ | emitted _ | ignored | jumped _ | passed =>
      simp only [State.perform, State.proceed, absorb, hlow, hhigh]

/-- **A step does what its outcome tells.** -/
theorem Valid.replay_of_step {p : Program} {m : Machine} {s t : State} {o : Outcome}
    (hv : s.Valid p m) (h : s.step p = .ok (t, o)) : t = s.replay p.length o := by
  cases step_eq_ok_iff.mp h with
  | frozen ended => rfl
  | faulted going fetch read effect => rfl
  | @applied x cell e going fetch read effect inside =>
      rw [hv.toFits.proceed_perform]
      simp only [replay, Effect.continuation_eq_next, decide_eq_true_eq]
      split
      · next hend => simp only [hend, decide_true]
      · next hend =>
          -- a run that is not over stays so
          have hgoing : (s.absorb e).done = false := by
            cases e <;> exact going
          simp only [hend, decide_false, ← hgoing]

theorem trueOf_of_effect {p : Program} {s : State} {cell : UInt8} {x : Instruction} {e : Effect}
    (read : s.cell? = some cell) (h : s.effect p cell x = .ok e) : e.TrueOf s := by
  have hbranch : ∀ side : Side, s.branch p side cell = .ok e → e.TrueOf s := by
    intro side hb
    rcases branch_eq_ok_iff.mp hb with ⟨_, rfl⟩ | ⟨_, j, _, rfl⟩ <;> trivial
  cases x with
  | increment | decrement =>
      cases h
      exact ⟨rfl, read⟩
  | output =>
      cases h
      exact read
  | right | left | input =>
      cases h
      trivial
  | opening => exact hbranch .opening h
  | closing => exact hbranch .closing h

/-- **What an outcome tells of the state before the step is true.** -/
theorem trueOf_of_step {p : Program} {s t : State} {o : Outcome} (h : s.step p = .ok (t, o)) :
    o.TrueOf p s := by
  cases step_eq_ok_iff.mp h with
  | frozen ended => exact ended
  | faulted going fetch read effect => exact ⟨going, position_of_effect_error effect⟩
  | @applied x cell e going fetch read effect inside =>
      refine ⟨going, rfl, fetch, trueOf_of_effect read effect, ?_⟩
      rw [Effect.continuation_eq_next, decide_eq_true_eq]

theorem get?_replay_changed {p : Program} {m : Machine} {s : State} (hv : s.Valid p m)
    (length position cell i : Nat) (x : Instruction) (before after : UInt8) (halted : Bool)
    (hcell : cell = s.pointer) :
    (s.replay length (.applied position x (.changed cell before after) halted)).tape.get? i =
      if i = cell then some after else s.tape.get? i := by
  have hlt : cell < s.tape.capacity := by
    rw [hcell, hv.capacity]
    exact hv.pointer_lt
  have htape : (s.replay length (.applied position x (.changed cell before after) halted)).tape =
      s.tape.set cell after := by
    cases halted <;> rfl
  simp only [htape, Tape.get?_set, hlt, and_true, eq_comm]

/-! ### Whole runs -/

/-- **Folding the outcomes of a trace over its beginning leads to its end.** -/
theorem Trace.foldl_replay {p : Program} {m : Machine} {s t : State}
    {calls : List (State × Outcome)} (h : Trace p s calls t) (hv : s.Valid p m) :
    (calls.map Prod.snd).foldl (replay p.length) s = t := by
  induction h with
  | nil s => rfl
  | cons going step tail ih =>
      rw [List.map_cons, List.foldl_cons, ← hv.replay_of_step step]
      exact ih (hv.step step)

end State

namespace Session

open State (Trace)

/-- However far a run is followed, and however it ends, it follows a trace of its state. -/
theorem exists_trace_of_follow {α : Type} {m : Machine} {s : Session} (limits : Limits)
    (observe : α → State → Outcome → α) (hv : s.state.Valid s.program m) (fuel taken : Nat)
    (seen : α) :
    ∃ calls u ending, Trace s.program s.state calls u ∧
      follow limits observe fuel taken seen s =
        .ok ⟨calls.foldl (fun a c => observe a c.1 c.2) seen, s.advance calls.length u,
          ending⟩ := by
  induction fuel generalizing s taken seen with
  | zero =>
      cases hd : s.state.done with
      | true => exact ⟨[], s.state, _, .nil _, follow_done hd⟩
      | false =>
          cases hgo : limits.abort? taken with
          | some reason => exact ⟨[], s.state, _, .nil _, follow_abort hd hgo⟩
          | none => exact ⟨[], s.state, _, .nil _, follow_zero hd hgo⟩
  | succ fuel ih =>
      cases hd : s.state.done with
      | true => exact ⟨[], s.state, _, .nil _, follow_done hd⟩
      | false =>
          cases hgo : limits.abort? taken with
          | some reason => exact ⟨[], s.state, _, .nil _, follow_abort hd hgo⟩
          | none =>
              obtain ⟨t, o, hstep⟩ := hv.exists_step
              have hadvance := (step_eq_advance hd hstep).2
              obtain ⟨calls, u, ending, htrace, hfollow⟩ :=
                ih (s := s.advance 1 t) (hv.step hstep) (taken + 1) (observe seen t o)
              refine ⟨(t, o) :: calls, u, ending, .cons hd hstep htrace, ?_⟩
              rw [follow_succ hd hgo hadvance, List.length_cons, Nat.add_comm calls.length,
                ← advance_advance s 1 calls.length t]
              exact hfollow

theorem state_of_runObserved (p : Program) (m : Machine) (d : Delays) (limits : Limits)
    (fuel : Nat) :
    ∃ f, (ofProgram p m d).runObserved limits (fun seen _ o => seen ++ [o]) [] fuel = .ok f ∧
      f.session.state = f.seen.foldl (State.replay p.length) (State.start p m) := by
  have hv := State.valid_start p m
  obtain ⟨calls, u, ending, htrace, hfollow⟩ := exists_trace_of_follow
    (s := (ofProgram p m d).pause) limits (fun (seen : List Outcome) _ o => seen ++ [o]) hv fuel
      0 []
  refine ⟨_, hfollow, ?_⟩
  have hseen : ∀ seen : List Outcome,
      calls.foldl (fun a c => a ++ [c.2]) seen = seen ++ calls.map Prod.snd := by
    clear htrace hfollow
    induction calls with
    | nil => simp
    | cons c rest ih => simp [ih]
  rw [hseen, List.nil_append]
  exact (Trace.foldl_replay htrace hv).symm

end Session

namespace State

/-- **Outcomes are a complete log.**  In every state that a run reaches, a step leads to the state
that its outcome tells, and what the outcome tells of the program and of the state before is true; a
change of a cell leaves the other cells alone.  Hence folding the outcomes that the observer of a
fresh run sees over the state it started in gives the state it ended in, whatever its limits are
and however far it is followed. -/
theorem outcomes_are_a_complete_log (p : Program) (m : Machine) :
    (∀ n, ∃ s t o, (start p m).after p n = .ok s ∧ s.step p = .ok (t, o) ∧
      t = s.replay p.length o ∧ o.TrueOf p s ∧
      ∀ position x cell before after halted,
        o = .applied position x (.changed cell before after) halted →
        ∀ i, t.tape.get? i = if i = cell then some after else s.tape.get? i) ∧
    ∀ d limits fuel, ∃ f,
      (Session.ofProgram p m d).runObserved limits (fun seen _ o => seen ++ [o]) [] fuel = .ok f ∧
        f.session.state = f.seen.foldl (replay p.length) (start p m) := by
  refine ⟨fun n => ?_, fun d limits fuel => Session.state_of_runObserved p m d limits fuel⟩
  obtain ⟨s, hs, hv⟩ := exists_after_valid p m n
  obtain ⟨t, o, hstep⟩ := hv.exists_step
  have ht := hv.replay_of_step hstep
  have htrue := trueOf_of_step hstep
  refine ⟨s, t, o, hs, hstep, ht, htrue, fun position x cell before after halted ho i => ?_⟩
  subst ho
  obtain ⟨_, _, _, ⟨hcell, _⟩, _⟩ := htrue
  rw [ht]
  exact get?_replay_changed hv _ _ _ _ _ _ _ _ hcell

end State

end TapeMachine
