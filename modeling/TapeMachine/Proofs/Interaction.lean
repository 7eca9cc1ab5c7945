/-
**What a viewer can come to.**

A viewer is changed by key presses, by the passing of time and by being drawn.  Most keys only look
at the session: they scroll, move the focus, show help.  The others each come down to one command of
the viewer, and while the editor is open every key goes to the editor.  What one operation can do is
said here once, as a relation, and what follows for a viewer is read off it.

Three things hold in every viewer that can come about.  Its session is a replay of the program of
some text, and no operation breaks a contract.  The flag by which the viewer remembers whether the
clock drove its session tells the truth.  And while the editor is open its cursor is in its text,
and the clock does not drive the session.  The toolkit that draws is any that obeys the laws.

Main definitions:

* `TapeMachine.Viewer.Operation`, `TapeMachine.Viewer.perform` — what can be done to a viewer, and
  doing it;
* `TapeMachine.Viewer.startsRun` — the keys that start a run;
* `TapeMachine.Viewer.Change` — what one operation can do, as a relation;
* `TapeMachine.Viewer.Sound` — the three things.

Main results:

* `TapeMachine.Viewer.onTick_of_paused` — the passing of time does not touch a viewer whose session
  the clock does not drive;
* `TapeMachine.Viewer.Sound.exists_change` — **every operation succeeds**, and is in the relation;
* `TapeMachine.Viewer.Change.sound` — every operation keeps a viewer sound;
* `TapeMachine.Viewer.Sound.exists_reached` — and so do all operations.
-/

import TapeMachine.Proofs.Drawing
import TapeMachine.Proofs.Driving
import TapeMachine.Proofs.Editing

set_option relaxedAutoImplicit false
set_option autoImplicit false

namespace TapeMachine

namespace Viewer

/-- What can be done to a viewer. -/
inductive Operation where
  | press (k : KeyPress) (now : Nat)
  | tick (now : Nat)
  | draw (theme : Theme) (width height : Nat)

/-- The viewer after an operation.  A key that asks to quit is a key like any other. -/
def perform (t : Toolkit) (v : Viewer) : Operation → Except Breach Viewer
  | .press k now => (v.press k now).map Prod.fst
  | .tick now => v.onTick now
  | .draw theme width height => (v.draw t theme width height).map Prod.fst

/-- The key lets the clock drive the run, if there is anything left of it. -/
def startsRun (v : Viewer) (k : KeyPress) : Bool :=
  v.editor.isNone && !k.modifiers.control &&
    (k.key = .char 'r' || k.key = .char 'f' || k.key = .function 5)

/-! ### One operation -/

/-- What one operation can do to a viewer. -/
inductive Change (v : Viewer) : Operation → Viewer → Prop where
  /-- The user looks at something else, asks to quit, or the key means nothing. -/
  | looked {k : KeyPress} {now : Nat} {focus : Pane} {display : Display} {follow : Bool}
      {offsets : Offsets} {showHelp : Bool} (closed : v.editor = none) :
      Change v (.press k now) { v with
        focus := focus
        display := display
        follow := follow
        offsets := offsets
        showHelp := showHelp }
  | stepped {k : KeyPress} {now : Nat} {t : Session} {o : Outcome} (closed : v.editor = none)
      (step : v.session.step = .ok (t, o)) :
      Change v (.press k now) { v with session := t, follow := true, message := stepMessage o }
  | started {k : KeyPress} {now : Nat} (cadence : Cadence) (starts : v.startsRun k = true) :
      Change v (.press k now) (v.start cadence now)
  | paused {k : KeyPress} {now : Nat} (closed : v.editor = none) : Change v (.press k now) v.pause
  | reset {k : KeyPress} {now : Nat} (closed : v.editor = none) : Change v (.press k now) v.reset
  | edited {k : KeyPress} {now : Nat} (closed : v.editor = none) : Change v (.press k now) v.edit
  | applied {k : KeyPress} {now : Nat} {e : Editor} (opened : v.editor = some e) :
      Change v (.press k now) (v.apply e)
  | canceled {k : KeyPress} {now : Nat} {e : Editor} (opened : v.editor = some e) :
      Change v (.press k now) v.cancel
  | typed {k : KeyPress} {now : Nat} {e e' : Editor} (opened : v.editor = some e)
      (typed : e.press k = .ok e') : Change v (.press k now) { v with editor := some e' }
  | ticked {now : Nat} {w : Viewer} (tick : v.onTick now = .ok w) : Change v (.tick now) w
  | drawn {theme : Theme} {width height : Nat} (offsets : Offsets) (scroll : Nat) :
      Change v (.draw theme width height) (v.scrolledTo offsets scroll)

variable {v w : Viewer}

/-- The viewer after the passing of time, told from what it does to the session. -/
theorem onTick_of_tick {now n : Nat} {t : Session} (h : v.session.tick now = .ok (t, n)) :
    v.onTick now = .ok { v with
      session := t
      follow := v.follow || decide (0 < n)
      message := if v.wasRunning && !t.isRunning then t.state.restMessage else v.message
      wasRunning := t.isRunning } := by
  simp only [onTick, h]

/-- **The passing of time does not touch a viewer whose session the clock does not drive.** -/
theorem onTick_of_paused (hs : v.session.isRunning = false) (hw : v.wasRunning = false)
    (now : Nat) : v.onTick now = .ok v := by
  have hsame : { v with wasRunning := false } = v := by rw [← hw]
  rw [onTick_of_tick (Session.tick_of_paused hs now), hs, hw]
  simpa using hsame

/-- What a key does while the editor is closed and the control key is not held down. -/
theorem exists_pressCommand (closed : v.editor = none) {t : Session} {o : Outcome}
    (hstep : v.session.step = .ok (t, o)) {k : KeyPress} (hk : k.modifiers.control = false)
    (now : Nat) :
    ∃ w quit, v.pressCommand k.key now = .ok (w, quit) ∧ v.Change (.press k now) w := by
  obtain ⟨key, modifiers⟩ := k
  have hstarts : ∀ {key}, key = .char 'r' ∨ key = .char 'f' ∨ key = .function 5 →
      v.startsRun ⟨key, modifiers⟩ = true := by
    intro key hkey
    simp only at hk
    rcases hkey with rfl | rfl | rfl <;> simp [startsRun, closed, hk]
  have hstepped : (v.step.map fun w => (w, false)) =
      .ok ({ v with session := t, follow := true, message := stepMessage o }, false) := by
    simp only [step, hstep, Except.map]
  -- the cases are the arms of the match; the keys that only look at the session come last
  fun_cases pressCommand v key now with
  | case6 | case7 => exact ⟨_, _, hstepped, .stepped closed hstep⟩
  | case8 => exact ⟨_, _, rfl, .started .normal (hstarts (by simp))⟩
  | case9 => exact ⟨_, _, rfl, .started .normal (hstarts (by simp))⟩
  | case10 => exact ⟨_, _, rfl, .started .fast (hstarts (by simp))⟩
  | case11 | case12 => exact ⟨_, _, rfl, .paused closed⟩
  | case13 => exact ⟨_, _, rfl, .reset closed⟩
  | case15 => exact ⟨_, _, rfl, .edited closed⟩
  | _ => exact ⟨_, _, rfl, .looked closed⟩

/-- The key that opens the editor. -/
theorem press_edit (closed : v.editor = none) {mods : Modifiers} (hm : mods.control = false)
    (now : Nat) : v.press ⟨.char 'e', mods⟩ now = .ok (v.edit, false) := by
  simp [press, closed, hm, pressCommand]

/-- A key that applies the text of the editor. -/
theorem press_apply {e : Editor} (opened : v.editor = some e) {k : KeyPress}
    (hk : applies k = true) (now : Nat) : v.press k now = .ok (v.apply e, false) := by
  rw [press_editor opened, pressEditor, if_pos hk]
  rfl

/-! ### Sound viewers -/

/-- The session is a replay of the program of the text, the viewer knows whether the clock drives
it, and the clock does not while the editor is open. -/
structure Sound (text : String) (m : Machine) (d : Delays) (v : Viewer) : Prop where
  replays : v.session.Replays text m d
  watched : v.wasRunning = v.session.isRunning
  editing : ∀ e, v.editor = some e → e.Valid ∧ v.session.isRunning = false

theorem sound_ofSession (text source : String) (filename : Option String) (m : Machine)
    (d : Delays) : (ofSession (Session.load text m d) source filename).Sound text m d where
  replays := Session.replays_load text m d
  watched := rfl
  editing := by
    intro e he
    cases he

variable {text : String} {m : Machine} {d : Delays} {t : Toolkit}

/-- The cursor of an open editor is in a line. -/
theorem Sound.row_lt (h : v.Sound text m d) {e : Editor} (he : v.editor = some e) :
    e.row < e.lines.length :=
  (h.editing e he).1.row_lt

/-- A viewer stays sound wherever its panes and its editor are scrolled to. -/
theorem Sound.scrolledTo (h : v.Sound text m d) (offsets : Offsets) (scroll : Nat) :
    (v.scrolledTo offsets scroll).Sound text m d := by
  refine ⟨h.replays, h.watched, ?_⟩
  intro e he
  obtain ⟨e', he', rfl⟩ := Option.map_eq_some_iff.mp he
  obtain ⟨hvalid, hrunning⟩ := h.editing e' he'
  exact ⟨hvalid.scrolled scroll, hrunning⟩

/-- **Every operation succeeds**, and does what it can do. -/
theorem Sound.exists_change (ht : t.Lawful) (h : v.Sound text m d) (o : Operation) :
    ∃ w, v.perform t o = .ok w ∧ v.Change o w := by
  cases o with
  | press k now =>
      cases he : v.editor with
      | none =>
          cases hk : k.modifiers.control with
          | true =>
              refine ⟨v, ?_, .looked he⟩
              simp [perform, press, he, hk, Except.map]
          | false =>
              obtain ⟨s, o, hstep, -⟩ := h.replays.step
              obtain ⟨w, quit, hpress, hchange⟩ := exists_pressCommand he hstep hk now
              refine ⟨w, ?_, hchange⟩
              simp [perform, press, he, hk, hpress, Except.map]
      | some e =>
          obtain ⟨e', hpress, -⟩ := (h.editing e he).1.exists_press k
          simp only [perform, press_editor he, pressEditor, hpress]
          split
          · exact ⟨_, rfl, .applied he⟩
          · split
            · exact ⟨_, rfl, .canceled he⟩
            · exact ⟨_, rfl, .typed he hpress⟩
  | tick now =>
      obtain ⟨s, n, htick, -⟩ := h.replays.tick now
      exact ⟨_, onTick_of_tick htick, .ticked (onTick_of_tick htick)⟩
  | draw theme width height =>
      obtain ⟨offsets, scroll, frame, hdraw⟩ :=
        v.exists_draw theme ht (fun _ => h.row_lt) width height
      refine ⟨v.scrolledTo offsets scroll, ?_, .drawn offsets scroll⟩
      simp only [perform, hdraw, Except.map]

/-- **Every operation keeps a viewer sound.**  The text of its program stays what it was together
with its source, or becomes its source. -/
theorem Change.sound {o : Operation} (hc : v.Change o w) (h : v.Sound text m d) :
    (w.Sound text m d ∧ w.source = v.source) ∨ w.Sound w.source m d := by
  cases hc with
  | looked closed => exact .inl ⟨⟨h.replays, h.watched, h.editing⟩, rfl⟩
  | @stepped k now t o closed step =>
      obtain ⟨t', o', hstep, hreplays⟩ := h.replays.step
      cases step.symm.trans hstep
      have hrunning : t.isRunning = v.session.isRunning :=
        congrArg Scheduler.isRunning (Session.scheduler_of_step step)
      refine .inl ⟨⟨hreplays, h.watched.trans hrunning.symm, ?_⟩, rfl⟩
      intro e he
      cases closed.symm.trans he
  | started cadence starts =>
      refine .inl ⟨⟨h.replays.start .., rfl, ?_⟩, rfl⟩
      intro e he
      have he : v.editor = some e := he
      simp [startsRun, he] at starts
  | paused closed =>
      refine .inl ⟨⟨h.replays.pause, rfl, ?_⟩, rfl⟩
      intro e he
      cases closed.symm.trans he
  | reset closed =>
      refine .inl ⟨⟨?_, rfl, ?_⟩, rfl⟩
      · have hreset : v.reset.session = Session.load text m d := h.replays.reset_eq_load
        rw [hreset]
        exact Session.replays_load text m d
      · intro e he
        cases closed.symm.trans he
  | edited closed =>
      refine .inl ⟨⟨h.replays.pause, rfl, ?_⟩, rfl⟩
      intro e he
      cases he
      exact ⟨Editor.valid_ofSource v.source, rfl⟩
  | @applied k now e opened =>
      refine .inr ⟨?_, rfl, ?_⟩
      · have happly : (v.apply e).session = Session.load (v.apply e).source m d :=
          h.replays.replace_eq_load _
        rw [happly]
        exact Session.replays_load _ m d
      · intro e' he'
        cases he'
  | canceled opened =>
      refine .inl ⟨⟨h.replays, h.watched, ?_⟩, rfl⟩
      intro e he
      cases he
  | @typed k now e e' opened typed =>
      obtain ⟨hvalid, hrunning⟩ := h.editing e opened
      obtain ⟨e'', hpress, hvalid', -⟩ := hvalid.exists_press k
      cases typed.symm.trans hpress
      refine .inl ⟨⟨h.replays, h.watched, ?_⟩, rfl⟩
      intro e₁ he₁
      cases he₁
      exact ⟨hvalid', hrunning⟩
  | @ticked now w tick =>
      obtain ⟨t, n, ht, hreplays⟩ := h.replays.tick now
      rw [onTick_of_tick ht] at tick
      cases tick
      refine .inl ⟨⟨hreplays, rfl, ?_⟩, rfl⟩
      intro e he
      obtain ⟨hvalid, hrunning⟩ := h.editing e he
      exact ⟨hvalid, by simp only [Session.isRunning_tick ht, hrunning, Bool.false_and]⟩
  | drawn offsets scroll => exact .inl ⟨h.scrolledTo offsets scroll, rfl⟩

/-! ### All operations -/

/-- **What each of the operations keeps, all of them keep.** -/
theorem foldlM_perform_invariant {P : Viewer → Prop} (ops : List Operation)
    (keep : ∀ o ∈ ops, ∀ v, P v → ∃ w, v.perform t o = .ok w ∧ P w) (h : P v) :
    ∃ w, ops.foldlM (perform t) v = .ok w ∧ P w := by
  induction ops generalizing v with
  | nil => exact ⟨v, rfl, h⟩
  | cons o ops ih =>
      rw [List.forall_mem_cons] at keep
      obtain ⟨u, hu, hP⟩ := keep.1 v h
      rw [List.foldlM_cons, hu]
      exact ih keep.2 hP

/-- Every viewer that can come about is sound, for some text. -/
theorem Sound.exists_reached (ht : t.Lawful) (h : v.Sound text m d) (ops : List Operation) :
    ∃ w text', ops.foldlM (perform t) v = .ok w ∧ w.Sound text' m d := by
  have hrun := foldlM_perform_invariant (t := t) (P := fun v => ∃ text', v.Sound text' m d) ops ?_
    ⟨text, h⟩
  · obtain ⟨w, hw, text', hsound⟩ := hrun
    exact ⟨w, text', hw, hsound⟩
  · rintro o - v ⟨text', hv⟩
    obtain ⟨w, hw, hchange⟩ := hv.exists_change ht o
    rcases hchange.sound hv with ⟨hsound, -⟩ | hsound
    · exact ⟨w, hw, text', hsound⟩
    · exact ⟨w, hw, w.source, hsound⟩

/-- A viewer whose session holds the program of its source goes on to do so. -/
theorem Sound.exists_reached_source (ht : t.Lawful) (h : v.Sound text m d)
    (hsource : v.source = text) (ops : List Operation) :
    ∃ w, ops.foldlM (perform t) v = .ok w ∧ w.Sound w.source m d := by
  refine foldlM_perform_invariant (P := fun v => v.Sound v.source m d) ops ?_ (hsource ▸ h)
  intro o _ v hv
  obtain ⟨w, hw, hchange⟩ := hv.exists_change ht o
  refine ⟨w, hw, ?_⟩
  rcases hchange.sound hv with ⟨hsound, hsource⟩ | hsound
  · rw [hsource]
    exact hsound
  · exact hsound

end Viewer

end TapeMachine
