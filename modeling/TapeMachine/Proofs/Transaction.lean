/-
**Editing is a transaction.**

While the editor is open the clock does not drive the session, so the passing of time changes
nothing, and every key goes to the editor, whatever it means otherwise.  So until the user leaves
the editor nothing of the viewer changes but the editor and, when it is drawn, how far its panes are
scrolled.  Leaving it with the escape key forgets the text, and the viewer is as it was; applying
the text starts the session over with it.

Main definitions:

* `TapeMachine.Viewer.Operation.leaves`, `TapeMachine.Viewer.Operation.draws` — the operations that
  leave an open editor, and those that draw;
* `TapeMachine.Viewer.editing` — a viewer whose editor was opened and used since.

Main results:

* `TapeMachine.Viewer.exists_perform_editing`, `TapeMachine.Viewer.exists_foldlM_editing` — **an
  open editor keeps everything else as it was**, under one operation and under all of them;
* `TapeMachine.Viewer.press_escape_editing`, `TapeMachine.Viewer.press_apply_editing` — the two ways
  to leave it;
* `TapeMachine.Viewer.editing_is_transactional` — what that means for every viewer that can come
  about.
-/

import TapeMachine.Proofs.Interaction
import TapeMachine.Screen.Standard

set_option relaxedAutoImplicit false
set_option autoImplicit false

namespace TapeMachine

namespace Viewer

/-- The operation leaves an open editor: its key applies the text, or is the escape key. -/
def Operation.leaves : Operation → Bool
  | .press k _ => applies k || k.key = .escape
  | .tick _ => false
  | .draw .. => false

/-- The operation is to draw the viewer. -/
def Operation.draws : Operation → Bool
  | .press .. => false
  | .tick _ => false
  | .draw .. => true

/-- The viewer after its editor was opened, with what became of the editor and the offsets. -/
def editing (v : Viewer) (e : Editor) (offsets : Offsets) : Viewer :=
  { v with
    session := v.session.pause
    offsets := offsets
    editor := some e
    message := "Editing"
    wasRunning := false }

variable {v : Viewer} {e : Editor} {offsets : Offsets} {t : Toolkit}

theorem edit_eq_editing : v.edit = v.editing (Editor.ofSource v.source) v.offsets := rfl

/-- While the editor is open no key asks to quit. -/
theorem exists_press_editing (he : e.Valid) (k : KeyPress) (now : Nat) :
    ∃ x, (v.editing e offsets).press k now = .ok (x, false) := by
  obtain ⟨e', hpress, -⟩ := he.exists_press k
  rw [press_editor rfl, pressEditor, hpress]
  split
  · exact ⟨_, rfl⟩
  · split
    · exact ⟨_, rfl⟩
    · exact ⟨_, rfl⟩

/-! ### Leaving the editor -/

/-- The escape key forgets the text: only the message and the offsets can differ from those of a
paused viewer. -/
theorem press_escape_editing (closed : v.editor = none) {k : KeyPress} (hk : k.key = .escape)
    (now : Nat) : (v.editing e offsets).press k now = .ok ({ v with
      session := v.session.pause
      offsets := offsets
      message := "Edit cancelled"
      wasRunning := false }, false) := by
  have happlies : ¬applies k = true := by simp [applies, hk]
  rw [press_editor rfl, pressEditor, if_neg happlies, if_pos hk, closed]
  rfl

/-- A key that applies the text starts the session over with it. -/
theorem press_apply_editing {text : String} {m : Machine} {d : Delays}
    (hv : v.session.Replays text m d) (closed : v.editor = none) {k : KeyPress}
    (hk : applies k = true) (now : Nat) : (v.editing e offsets).press k now = .ok ({ v with
      session := Session.load (String.ofList e.text) m d
      source := String.ofList e.text
      follow := true
      offsets := Offsets.zero
      message := s!"Loaded {(Program.ofSource (String.ofList e.text)).length} instructions"
      wasRunning := false }, false) := by
  have hload := hv.pause.replace_eq_load (String.ofList e.text)
  rw [press_apply rfl hk, ← hload, closed]
  rfl

/-! ### Staying in the editor -/

/-- **An open editor keeps everything else as it was** under an operation that does not leave it. -/
theorem exists_perform_editing (ht : t.Lawful) (he : e.Valid) {o : Operation}
    (ho : o.leaves = false) :
    ∃ e' offsets', (v.editing e offsets).perform t o = .ok (v.editing e' offsets') ∧ e'.Valid ∧
      (o.draws = false → offsets' = offsets) := by
  cases o with
  | press k now =>
      obtain ⟨happlies, hescape⟩ : applies k = false ∧ ¬k.key = .escape := by
        simpa [Operation.leaves] using ho
      obtain ⟨e', hpress, hvalid, -⟩ := he.exists_press k
      refine ⟨e', offsets, ?_, hvalid, fun _ => rfl⟩
      rw [perform, press_editor rfl, pressEditor, happlies, if_neg Bool.false_ne_true,
        if_neg hescape, hpress]
      rfl
  | tick now =>
      have hpaused : (v.editing e offsets).session.isRunning = false := rfl
      exact ⟨e, offsets, onTick_of_paused hpaused rfl now, he, fun _ => rfl⟩
  | draw theme width height =>
      have hrow : ∀ e', (v.editing e offsets).editor = some e' → e'.row < e'.lines.length := by
        intro e' he'
        cases he'
        exact he.row_lt
      obtain ⟨offsets', scroll, frame, hdraw⟩ :=
        (v.editing e offsets).exists_draw theme ht hrow width height
      refine ⟨{ e with scroll := scroll }, offsets', ?_, he.scrolled scroll, ?_⟩
      · rw [perform, hdraw]
        rfl
      · intro hdraws
        cases hdraws

/-- **An open editor keeps everything else as it was** until it is left. -/
theorem exists_foldlM_editing (ht : t.Lawful) (he : e.Valid) {rest : List Operation}
    (hrest : ∀ o ∈ rest, o.leaves = false) :
    ∃ e' offsets', rest.foldlM (perform t) (v.editing e offsets) = .ok (v.editing e' offsets') ∧
      e'.Valid ∧ ((∀ o ∈ rest, o.draws = false) → offsets' = offsets) := by
  have hrun := foldlM_perform_invariant (t := t)
    (P := fun w => ∃ e' offsets', w = v.editing e' offsets' ∧ e'.Valid ∧
      ((∀ o ∈ rest, o.draws = false) → offsets' = offsets))
    rest ?_ ⟨e, offsets, rfl, he, fun _ => rfl⟩
  · obtain ⟨w, hw, e', offsets', rfl, he', hkeep⟩ := hrun
    exact ⟨e', offsets', hw, he', hkeep⟩
  · rintro o ho w ⟨e₁, offsets₁, rfl, he₁, hkeep₁⟩
    obtain ⟨e₂, offsets₂, hstep, he₂, hkeep₂⟩ := exists_perform_editing ht he₁ (hrest o ho)
    refine ⟨_, hstep, e₂, offsets₂, rfl, he₂, ?_⟩
    intro hdraws
    rw [hkeep₂ (hdraws o ho), hkeep₁ hdraws]

/-- **Editing is a transaction.**  Whatever was done to a viewer of a session that was just loaded,
when its editor is closed the key `e` opens it on the source.  Until a key leaves the editor, no
operation fails, the session stays what it was, but paused, the source stays, and no key asks to
quit.  The escape key brings the viewer back as it was, but for the message, and the offsets if it
was drawn since; a key that applies the text starts the session over with it, shown from its
beginning. -/
theorem editing_is_transactional (ht : t.Lawful) (text source : String)
    (filename : Option String) (m : Machine) (d : Delays) (ops : List Operation) :
    ∃ v, ops.foldlM (perform t) (ofSession (Session.load text m d) source filename) = .ok v ∧
      (v.editor = none → ∀ mods now, mods.control = false →
        ∃ u, v.press ⟨.char 'e', mods⟩ now = .ok (u, false) ∧
          u.editor = some (Editor.ofSource v.source) ∧
          ∀ rest : List Operation, (∀ o ∈ rest, o.leaves = false) →
            ∃ w e, rest.foldlM (perform t) u = .ok w ∧ w.editor = some e ∧
              w.session = v.session.pause ∧ w.session.isRunning = false ∧ w.source = v.source ∧
              ((∀ o ∈ rest, o.draws = false) → w.offsets = v.offsets) ∧
              (∀ k later, ∃ x, w.press k later = .ok (x, false)) ∧
              (∀ k later, k.key = .escape → w.press k later = .ok ({ v with
                session := v.session.pause
                offsets := w.offsets
                message := "Edit cancelled"
                wasRunning := false }, false)) ∧
              ∀ k later, applies k = true → w.press k later = .ok ({ v with
                session := Session.load (String.ofList e.text) v.session.machine v.session.delays
                source := String.ofList e.text
                follow := true
                offsets := Offsets.zero
                message :=
                  s!"Loaded {(Program.ofSource (String.ofList e.text)).length} instructions"
                wasRunning := false }, false)) := by
  obtain ⟨v, text', hv, hsound⟩ := (sound_ofSession text source filename m d).exists_reached ht ops
  refine ⟨v, hv, ?_⟩
  intro closed mods now hm
  refine ⟨v.edit, press_edit closed hm now, rfl, ?_⟩
  intro rest hrest
  obtain ⟨e, offsets, hrun, he, hkeep⟩ :=
    exists_foldlM_editing ht (Editor.valid_ofSource v.source) hrest
  rw [edit_eq_editing]
  refine ⟨v.editing e offsets, e, hrun, rfl, rfl, rfl, rfl, hkeep, exists_press_editing he, ?_, ?_⟩
  · intro k later hk
    exact press_escape_editing closed hk later
  · intro k later hk
    rw [hsound.replays.machine, hsound.replays.delays]
    exact press_apply_editing hsound.replays closed hk later

/-- What was typed is forgotten when the escape key is pressed. -/
theorem escape_forgets_what_was_typed :
    let v := ofSession (Session.load "+" Machine.standard Delays.standard) "+" none
    ∃ u w x, v.press ⟨.char 'e', .none⟩ 0 = .ok (u, false) ∧
      [Operation.press ⟨.char '-', .none⟩ 1, .draw Theme.standard 0 0].foldlM
        (perform Toolkit.standard) u = .ok w ∧
      w.press ⟨.escape, .none⟩ 2 = .ok (x, false) ∧
      x.editor = none ∧ x.source = "+" ∧ x.session = v.session.pause := by
  intro v
  obtain ⟨v', hv, hedit⟩ := editing_is_transactional Toolkit.lawful_standard "+" "+" none
    Machine.standard Delays.standard []
  cases hv
  obtain ⟨u, hu, -, hrest⟩ := hedit rfl .none 0 rfl
  obtain ⟨w, e, hw, -, -, -, -, -, -, hescape, -⟩ :=
    hrest [.press ⟨.char '-', .none⟩ 1, .draw Theme.standard 0 0] (by decide)
  exact ⟨u, w, _, hu, hw, hescape ⟨.escape, .none⟩ 2 rfl, rfl, rfl, rfl⟩

end Viewer

end TapeMachine
