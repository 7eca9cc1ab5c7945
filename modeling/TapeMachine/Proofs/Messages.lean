/-
**What the viewer says of a run.**

While the clock drives a run, the viewer has to notice that it has come to rest, and it has only the
session of this moment to go by.  So it remembers whether the clock drove the run when it was last
looked at, and five commands keep that memory by hand.  Since it is never wrong, the message of a
run that came to rest is given once, by the poll that let go of the run, and it says how the run
ended.  A run that was ended by a key was let go of by that key, and no poll speaks of it later.

Main definitions:

* `TapeMachine.Viewer.endsRun` — the keys that let go of a run: pause, reset, edit and apply.

Main results:

* `TapeMachine.Viewer.Sound.exists_onTick` — **what a poll says**, and when;
* `TapeMachine.Viewer.Change.isRunning_eq_false` — only a key that starts a run starts one;
* `TapeMachine.Viewer.Sound.quiet_or_started` — without a run polls change nothing, however long;
* `TapeMachine.Viewer.messages_tell_how_runs_end` — what that means for every viewer that can come
  about.
-/

import TapeMachine.Proofs.Interaction
import TapeMachine.Screen.Standard

set_option relaxedAutoImplicit false
set_option autoImplicit false

namespace TapeMachine

namespace Viewer

/-- The key lets go of the run: it pauses, resets or opens the editor while the editor is closed, or
applies its text while it is open. -/
def endsRun (v : Viewer) (k : KeyPress) : Bool :=
  if v.editor.isSome then applies k
  else !k.modifiers.control &&
    (k.key = .char 'p' || k.key = .char ' ' || k.key = .char 'x' || k.key = .char 'e')

variable {v w : Viewer} {text : String} {m : Machine} {d : Delays} {t : Toolkit}

/-- **What a poll says**: how the run ended, when the clock drove it and does so no more, and
nothing otherwise. -/
theorem Sound.exists_onTick (h : v.Sound text m d) (now : Nat) :
    ∃ w, v.onTick now = .ok w ∧
      (v.session.isRunning = true → w.session.isRunning = false →
        w.session.state.done = true ∧
          w.message = match w.session.state.fault? with
            | some u => s!"Halted: {u.message}"
            | none => "Done") ∧
      (¬(v.session.isRunning = true ∧ w.session.isRunning = false) → w.message = v.message) := by
  obtain ⟨s, n, htick, -⟩ := h.replays.tick now
  refine ⟨_, onTick_of_tick htick, ?_, ?_⟩
  · intro hv hs
    have hs : s.isRunning = false := hs
    have hdone : s.state.done = true := by
      have hlaw := Session.isRunning_tick htick
      rw [hs, hv, Bool.true_and] at hlaw
      simpa using hlaw.symm
    have htells : (v.wasRunning && !s.isRunning) = true := by simp [h.watched, hv, hs]
    refine ⟨hdone, ?_⟩
    cases hfault : s.state.fault? <;> simp [htells, State.restMessage, hdone, hfault]
  · intro hstays
    have hstays : ¬(v.session.isRunning = true ∧ s.isRunning = false) := hstays
    refine if_neg ?_
    rw [h.watched, Bool.and_eq_true, Bool.not_eq_true']
    exact hstays

/-- A key that lets go of the run does so. -/
theorem exists_press_of_endsRun {k : KeyPress} (hk : v.endsRun k = true) (now : Nat) :
    ∃ w, v.press k now = .ok (w, false) ∧ w.session.isRunning = false := by
  obtain ⟨key, modifiers⟩ := k
  cases he : v.editor with
  | some e =>
      have happlies : applies ⟨key, modifiers⟩ = true := by
        simpa [endsRun, he] using hk
      exact ⟨v.apply e, press_apply he happlies now, rfl⟩
  | none =>
      have hkey : modifiers.control = false ∧
          (((key = .char 'p' ∨ key = .char ' ') ∨ key = .char 'x') ∨ key = .char 'e') := by
        simpa [endsRun, he] using hk
      obtain ⟨hcontrol, hkey⟩ := hkey
      rcases hkey with ((rfl | rfl) | rfl) | rfl
      · exact ⟨v.pause, by simp [press, he, hcontrol, pressCommand], rfl⟩
      · exact ⟨v.pause, by simp [press, he, hcontrol, pressCommand], rfl⟩
      · exact ⟨v.reset, by simp [press, he, hcontrol, pressCommand], rfl⟩
      · exact ⟨v.edit, press_edit he hcontrol now, rfl⟩

/-- Only a key that starts a run starts one. -/
theorem Change.isRunning_eq_false {o : Operation} (hc : v.Change o w)
    (hv : v.session.isRunning = false)
    (ho : ∀ k now, o = .press k now → v.startsRun k = false) : w.session.isRunning = false := by
  cases hc with
  | looked | canceled | typed | drawn => exact hv
  | stepped closed step =>
      rw [Session.isRunning, Session.scheduler_of_step step]
      exact hv
  | @started k now cadence starts =>
      rw [ho k now rfl] at starts
      cases starts
  | paused | reset | edited | applied => rfl
  | @ticked now w tick =>
      simp only [onTick] at tick
      split at tick
      · cases tick
      · rename_i s n htick
        cases tick
        rw [Session.isRunning_tick htick, hv, Bool.false_and]

/-- **Without a run polls change nothing**, however long, until a key starts another run. -/
theorem Sound.quiet_or_started (ht : t.Lawful) (h : v.Sound text m d)
    (hv : v.session.isRunning = false) (rest : List Operation) :
    ∃ w, rest.foldlM (perform t) v = .ok w ∧ ((∀ later, w.onTick later = .ok w) ∨
      ∃ before k now after x, rest = before ++ .press k now :: after ∧
        before.foldlM (perform t) v = .ok x ∧ x.startsRun k = true) := by
  induction rest generalizing v text with
  | nil => exact ⟨v, rfl, .inl (onTick_of_paused hv (h.watched.trans hv))⟩
  | cons o rest ih =>
      obtain ⟨u, hu, hchange⟩ := h.exists_change ht o
      obtain ⟨text', hsound⟩ : ∃ text', u.Sound text' m d :=
        (hchange.sound h).elim (fun hs => ⟨text, hs.1⟩) (fun hs => ⟨u.source, hs⟩)
      by_cases hstart : ∃ k now, o = .press k now ∧ v.startsRun k = true
      · -- a key starts another run, and what comes after it does not matter
        obtain ⟨k, now, rfl, hk⟩ := hstart
        obtain ⟨w, -, hw, -⟩ := hsound.exists_reached ht rest
        refine ⟨w, ?_, .inr ⟨[], k, now, rest, v, rfl, rfl, hk⟩⟩
        rw [List.foldlM_cons, hu]
        exact hw
      · have hquiet : u.session.isRunning = false := by
          refine hchange.isRunning_eq_false hv ?_
          intro k now ho
          rw [← Bool.not_eq_true]
          intro hk
          exact hstart ⟨k, now, ho, hk⟩
        obtain ⟨w, hw, hrest⟩ := ih hsound hquiet
        rw [List.foldlM_cons, hu]
        refine ⟨w, hw, hrest.imp_right ?_⟩
        rintro ⟨before, k, now, after, x, rfl, hx, hk⟩
        refine ⟨o :: before, k, now, after, x, rfl, ?_, hk⟩
        rw [List.foldlM_cons, hu]
        exact hx

/-- **The messages of the viewer tell how its runs end.**  Whatever is done to a viewer of a session
that was just loaded, it knows whether the clock drives the session.  So a poll changes the message
only when it lets go of the run; the run is over then, and the message tells the fault it ended with
or that it is done.  When a key has let go of the run, by pausing, resetting, opening the editor or
applying its text, no poll changes anything until a key starts another run.  No toolkit that draws
the viewer has a part in this. -/
theorem messages_tell_how_runs_end (ht : t.Lawful) (text source : String)
    (filename : Option String) (m : Machine) (d : Delays) (ops : List Operation) :
    ∃ v, ops.foldlM (perform t) (ofSession (Session.load text m d) source filename) = .ok v ∧
      v.wasRunning = v.session.isRunning ∧
      (∀ now, ∃ w, v.onTick now = .ok w ∧
        (v.session.isRunning = true → w.session.isRunning = false →
          w.session.state.done = true ∧
            w.message = match w.session.state.fault? with
              | some u => s!"Halted: {u.message}"
              | none => "Done") ∧
        (¬(v.session.isRunning = true ∧ w.session.isRunning = false) → w.message = v.message)) ∧
      ∀ k now, v.endsRun k = true → ∃ u, v.press k now = .ok (u, false) ∧
        u.session.isRunning = false ∧
        ∀ rest, ∃ w, rest.foldlM (perform t) u = .ok w ∧ ((∀ later, w.onTick later = .ok w) ∨
          ∃ before k' now' after x, rest = before ++ .press k' now' :: after ∧
            before.foldlM (perform t) u = .ok x ∧ x.startsRun k' = true) := by
  obtain ⟨v, text', hv, hsound⟩ := (sound_ofSession text source filename m d).exists_reached ht ops
  refine ⟨v, hv, hsound.watched, hsound.exists_onTick, ?_⟩
  intro k now hk
  obtain ⟨u, hu, hquiet⟩ := exists_press_of_endsRun hk now
  -- the key is an operation like any other, so it leads to a sound viewer
  obtain ⟨u', text'', hperform, hsound'⟩ := hsound.exists_reached ht [.press k now]
  have hpress : [Operation.press k now].foldlM (perform t) v = .ok u := by
    rw [List.foldlM_cons]
    simp only [perform, hu, Except.map]
    rfl
  cases hpress.symm.trans hperform
  exact ⟨u, hu, hquiet, hsound'.quiet_or_started ht hquiet⟩

/-- The poll that finds the program at its end says so. -/
theorem poll_of_finished_run_says_done :
    ∃ v w, [Operation.press ⟨.char 'r', .none⟩ 0].foldlM (perform Toolkit.standard)
        (ofSession (Session.load "+" Machine.standard Delays.standard) "+" none) = .ok v ∧
      v.onTick 1000000000 = .ok w ∧ w.message = "Done" := by
  obtain ⟨v, hv, -, hpoll, -⟩ := messages_tell_how_runs_end Toolkit.lawful_standard "+" "+" none
    Machine.standard Delays.standard [.press ⟨.char 'r', .none⟩ 0]
  obtain ⟨w, hw, hdone, -⟩ := hpoll 1000000000
  have hrun : (([Operation.press ⟨.char 'r', .none⟩ 0].foldlM (perform Toolkit.standard)
      (ofSession (Session.load "+" Machine.standard Delays.standard) "+" none)).bind fun v =>
        (v.onTick 1000000000).map fun w => (v.session.isRunning, w.session.isRunning,
          w.session.state.fault?)) = .ok (true, false, none) := by
    cbv
  rw [hv] at hrun
  simp only [Except.bind, hw, Except.map, Except.ok.injEq, Prod.mk.injEq] at hrun
  obtain ⟨hrunning, hrest, hfault⟩ := hrun
  obtain ⟨-, hmessage⟩ := hdone hrunning hrest
  rw [hfault] at hmessage
  exact ⟨v, w, hv, hw, hmessage⟩

end Viewer

end TapeMachine
