/-
**Drawing once more.**

A frame settles how far the panes are scrolled, and the next frame of the same size finds nothing to
settle.  The offsets may have come from anywhere: from a frame of another size, from a state with
more to show, from keys that scroll without end.  One frame brings each of them to a line that its
pane has, and there it stays, whether the panes follow the run or not.

The reason is one equation for each pane.  What a pane draws depends on its offset only through the
offset it settles, and settling an offset twice is settling it once.  The areas of the panes do not
come into it, as long as the toolkit cuts a screen of one size in one way.

Main results:

* `TapeMachine.settleOffset_idem`, `TapeMachine.settleOffset_lt` — **settling an offset** twice is
  settling it once, and ends at a line;
* `TapeMachine.Viewer.drawProgram_scrolledTo`, `TapeMachine.Viewer.drawOutput_scrolledTo`,
  `TapeMachine.Viewer.drawTape_scrolledTo` — a pane depends on the offset it settles alone;
* `TapeMachine.Viewer.draw_settled` — a settled viewer is drawn as the viewer it comes from;
* `TapeMachine.Viewer.drawing_is_safe_and_stable` — what that means for every viewer that can come
  about.
-/

import TapeMachine.Proofs.Interaction
import TapeMachine.Proofs.Window
import TapeMachine.Screen.Standard

set_option relaxedAutoImplicit false
set_option autoImplicit false

namespace TapeMachine

/-! ### Settling an offset -/

/-- **Settling an offset twice is settling it once.**  The line of interest may lie behind the last
line; then the offset is cut off both times. -/
theorem settleOffset_idem (follow : Bool) (offset target height count : Nat) :
    settleOffset follow (settleOffset follow offset target height count) target height count =
      settleOffset follow offset target height count := by
  cases follow with
  | false => simp only [settleOffset, Bool.false_eq_true, if_false, Nat.min_assoc, Nat.min_self]
  | true =>
      simp only [settleOffset, if_true]
      rcases Nat.le_total (bringIntoView offset target height) (count - 1) with hle | hle
      · rw [Nat.min_eq_left hle, bringIntoView_idem, Nat.min_eq_left hle]
      · have hcut : count - 1 ≤ bringIntoView (count - 1) target height := by
          have := bringIntoView_le offset target height
          unfold bringIntoView
          split <;> omega
        rw [Nat.min_eq_right hle, Nat.min_eq_right hcut]

/-- **An offset is settled at a line**, when there is one. -/
theorem settleOffset_lt {count : Nat} (h : 0 < count) (follow : Bool)
    (offset target height : Nat) : settleOffset follow offset target height count < count :=
  Nat.lt_of_le_of_lt (Nat.min_le_right _ _) (Nat.sub_one_lt_of_lt h)

namespace Viewer

variable (v : Viewer) (theme : Theme) {t : Toolkit} (ht : t.Lawful) {offsets : Offsets}
  {scroll : Nat} {area : Area}

/-! ### A pane depends on the offset it settles alone -/

section

include ht

theorem drawProgram_scrolledTo
    (h : (v.scrolledTo offsets scroll).programOffset (t.inside area) =
      v.programOffset (t.inside area)) :
    (v.scrolledTo offsets scroll).drawProgram t theme area = v.drawProgram t theme area := by
  unfold programOffset at h
  unfold drawProgram
  simp only [ht.inner_paneBox]
  cases hempty : v.session.program.isEmpty with
  | true =>
      simp only [scrolledTo, hempty, if_true] at h ⊢
      rw [h]
      rfl
  | false =>
      simp only [scrolledTo, hempty, Bool.false_eq_true, if_false] at h ⊢
      rw [h]
      rfl

theorem drawOutput_scrolledTo
    (h : (v.scrolledTo offsets scroll).outputOffset (t.inside area) =
      v.outputOffset (t.inside area)) :
    (v.scrolledTo offsets scroll).drawOutput t theme area = v.drawOutput t theme area := by
  unfold outputOffset at h
  unfold drawOutput
  simp only [ht.inner_paneBox]
  cases hempty : v.session.state.log.isEmpty with
  | true =>
      simp only [scrolledTo, hempty, if_true] at h ⊢
      rw [h]
      rfl
  | false =>
      simp only [scrolledTo, hempty, Bool.false_eq_true, if_false] at h ⊢
      rw [h]
      rfl

theorem drawTape_scrolledTo
    (h : (v.scrolledTo offsets scroll).tapeOffset (t.inside area) =
      v.tapeOffset (t.inside area)) :
    (v.scrolledTo offsets scroll).drawTape t theme area = v.drawTape t theme area := by
  unfold tapeOffset at h
  unfold drawTape
  simp only [ht.inner_paneBox]
  simp only [scrolledTo] at h ⊢
  rw [h]
  rfl

theorem drawEditor_scrolled {e : Editor} (scroll : Nat)
    (h : editorOffset { e with scroll := scroll } (t.inside area) =
      editorOffset e (t.inside area)) :
    drawEditor { e with scroll := scroll } t theme area = drawEditor e t theme area := by
  unfold editorOffset at h
  unfold drawEditor
  simp only [ht.inner_paneBox]
  simp only at h ⊢
  rw [h]

end

/-! ### A settled viewer -/

variable {layout : Layout}

theorem programOffset_settled (h : v.editor = none) :
    (v.settled t layout).programOffset (t.inside layout.program) =
      v.programOffset (t.inside layout.program) := by
  have hoffset := offsets_program_settled (t := t) h layout
  unfold programOffset at hoffset ⊢
  rw [hoffset]
  simp only [settled, scrolledTo]
  split
  · rfl
  · exact settleOffset_idem ..

theorem outputOffset_settled :
    (v.settled t layout).outputOffset (t.inside layout.output) =
      v.outputOffset (t.inside layout.output) := by
  simp only [settled, scrolledTo, outputOffset]
  split
  · rfl
  · exact settleOffset_idem ..

theorem tapeOffset_settled :
    (v.settled t layout).tapeOffset (t.inside layout.tape) =
      v.tapeOffset (t.inside layout.tape) := by
  simp only [settled, scrolledTo, tapeOffset]
  exact settleOffset_idem ..

include ht in
/-- The first pane of a settled viewer is drawn as before, and settles nothing. -/
theorem drawMain_settled (h : ∀ e, v.editor = some e → e.row < e.lines.length) {u : Viewer}
    {main : PaneText} {cursor : Option (Nat × Nat)}
    (hmain : v.drawMain t theme layout.program = .ok (u, main, cursor)) :
    (v.settled t layout).drawMain t theme layout.program =
      .ok (v.settled t layout, main, cursor) := by
  cases he : v.editor with
  | none =>
      obtain ⟨pane, hdraw, -⟩ := v.exists_drawProgram theme ht layout.program
      have hdraw' : (v.settled t layout).drawProgram t theme _ = _ :=
        (v.drawProgram_scrolledTo theme ht (v.programOffset_settled he)).trans hdraw
      have hclosed : (v.settled t layout).editor = none := by
        simp only [settled, scrolledTo, he, Option.map_none]
      simp only [drawMain, he, hdraw, Except.map] at hmain
      cases hmain
      simp only [drawMain, hclosed, hdraw', Except.map]
      simp only [settled, scrolledTo, mainOffset, he, Option.isSome_none, Bool.false_eq_true,
        if_false]
      rfl
  | some e =>
      obtain ⟨pane, hdraw, -⟩ := exists_drawEditor theme ht (h e he) layout.program
      have hdraw' := (drawEditor_scrolled theme ht
        (editorOffset e (t.inside layout.program)) (bringIntoView_idem ..)).trans hdraw
      have hopened : (v.settled t layout).editor =
          some { e with scroll := editorOffset e (t.inside layout.program) } := by
        simp only [settled, scrolledTo, editorScroll, he, Option.map_some, Option.getD_some]
      simp only [drawMain, he, hdraw, Except.map] at hmain
      cases hmain
      simp only [drawMain, hopened, hdraw', Except.map]
      simp only [settled, scrolledTo, editorScroll, he, Option.map_some, Option.getD_some]

include ht in
/-- **A settled viewer is drawn as the viewer it comes from**, and settles nothing. -/
theorem draw_settled (h : ∀ e, v.editor = some e → e.row < e.lines.length) {width height : Nat}
    (hlayout : Layout.ofArea t (Area.ofSize width height) = .ok layout)
    (htiles : layout.Tiles (Area.ofSize width height)) {frame : t.Frame}
    (hdraw : v.draw t theme width height = .ok (v.settled t layout, frame)) :
    (v.settled t layout).draw t theme width height = .ok (v.settled t layout, frame) := by
  obtain ⟨main, hmain, -, -⟩ := v.exists_drawMain theme ht h layout.program
  obtain ⟨output, houtput, -⟩ :=
    (v.mainSettled (t.inside layout.program)).exists_drawOutput theme ht layout.output
  obtain ⟨tape, htape, -⟩ :=
    (v.mainSettled (t.inside layout.program)).exists_drawTape theme ht layout.tape
  have hmain' := v.drawMain_settled theme ht h hmain
  have houtput' : (v.settled t layout).drawOutput t theme layout.output = _ :=
    (v.drawOutput_scrolledTo theme ht v.outputOffset_settled).trans houtput
  have htape' : (v.settled t layout).drawTape t theme layout.tape = _ :=
    (v.drawTape_scrolledTo theme ht v.tapeOffset_settled).trans htape
  obtain ⟨f, hf⟩ := (v.settled t layout).exists_renderAll_frame theme ht htiles main output tape
  -- both frames are made of the same widgets
  have hfirst := v.draw_eq theme hlayout hmain houtput (w := v.settled t layout)
    (by rw [htape]; rfl) (by rw [htape]; exact hf)
  have hsecond := (v.settled t layout).draw_eq theme hlayout hmain' houtput'
    (w := v.settled t layout) (by rw [htape']; rfl) (by rw [htape']; exact hf)
  cases hdraw.symm.trans hfirst
  exact hsecond

/-! ### Every viewer that can come about -/

/-- The tape pane always has a line: that of the current cell. -/
theorem listing_length_pos {m : Machine} {s : State} (h : s.Fits m) : 0 < s.listing.length := by
  have hpointer := h.mem_windowCells h.lowest_le h.le_highest
  refine List.length_pos_of_mem (a := .cell s.pointer) ?_
  rw [State.listing, List.mem_flatMap]
  refine ⟨s.pointer, hpointer, ?_⟩
  split <;> exact List.mem_cons_self ..

/-- **Drawing is safe and stable.**  However a viewer came about, and whatever lawful toolkit draws
it, a frame of any size can be drawn of it.  The frame changes nothing but how far the panes and the
editor are scrolled, and leaves each of them at a line that it has; and a second frame of the same
size shows the same and changes nothing at all. -/
theorem drawing_is_safe_and_stable (ht : t.Lawful) (text source : String)
    (filename : Option String) (m : Machine) (d : Delays) (ops : List Operation) :
    ∃ v, ops.foldlM (perform t) (ofSession (Session.load text m d) source filename) = .ok v ∧
      ∀ (theme : Theme) (width height : Nat), ∃ layout offsets scroll frame,
        Layout.ofArea t (Area.ofSize width height) = .ok layout ∧
        v.draw t theme width height = .ok (v.scrolledTo offsets scroll, frame) ∧
        (v.editor = none → 0 < v.session.program.length → offsets.program <
          programRows v.session.program.length (perRow (t.inside layout.program).width)) ∧
        (∀ e, v.editor = some e → scroll < e.lines.length) ∧
        (0 < v.session.state.log.size → offsets.output < v.session.state.log.size) ∧
        offsets.tape < v.session.state.listing.length ∧
        (v.scrolledTo offsets scroll).draw t theme width height =
          .ok (v.scrolledTo offsets scroll, frame) := by
  obtain ⟨v, text', hv, hsound⟩ := (sound_ofSession text source filename m d).exists_reached ht ops
  have hrow : ∀ e, v.editor = some e → e.row < e.lines.length := fun _ => hsound.row_lt
  refine ⟨v, hv, fun theme width height => ?_⟩
  obtain ⟨layout, hlayout, htiles⟩ := ht.exists_layout (Area.ofSize width height)
  obtain ⟨frame, hdraw, -⟩ := v.exists_frame theme ht hrow hlayout htiles
  refine ⟨layout, _, _, frame, hlayout, hdraw, ?_, ?_, ?_, ?_,
    v.draw_settled theme ht hrow hlayout htiles hdraw⟩
  · intro he hlength
    have hrows : 0 < programRows v.session.program.length
        (perRow (t.inside layout.program).width) := by
      rwa [lt_programRows_iff (perRow_pos _), Nat.zero_mul]
    have hoffset := offsets_program_settled (t := t) he layout
    rw [programOffset_eq hlength] at hoffset
    exact hoffset.trans_lt (settleOffset_lt hrows ..)
  · intro e he
    simp only [editorScroll, he, Option.map_some, Option.getD_some]
    exact Nat.lt_of_le_of_lt (bringIntoView_le ..) (hrow e he)
  · intro hsize
    rw [outputOffset_eq hsize]
    exact settleOffset_lt hsize ..
  · exact settleOffset_lt (listing_length_pos hsound.replays.valid.toFits) ..

/-- A screen without a cell is drawn, although the program pane was scrolled too far, and settles
the pane at its last row. -/
theorem screen_without_cells_is_drawn :
    ∃ v offsets scroll frame,
      [Operation.press ⟨.pageDown, .none⟩ 0].foldlM (perform Toolkit.standard)
        (ofSession (Session.load "+." Machine.standard Delays.standard) "+." none) = .ok v ∧
      v.offsets.program = 10 ∧
      v.draw Toolkit.standard Theme.standard 0 0 = .ok (v.scrolledTo offsets scroll, frame) ∧
      offsets.program < 2 := by
  obtain ⟨v, hv, hdrawn⟩ := drawing_is_safe_and_stable Toolkit.lawful_standard "+." "+." none
    Machine.standard Delays.standard [.press ⟨.pageDown, .none⟩ 0]
  obtain ⟨layout, offsets, scroll, frame, hlayout, hdraw, hprogram, -⟩ :=
    hdrawn Theme.standard 0 0
  have hreached : ([Operation.press ⟨.pageDown, .none⟩ 0].foldlM (perform Toolkit.standard)
      (ofSession (Session.load "+." Machine.standard Delays.standard) "+." none)).map
        (fun v => (v.editor, v.offsets.program, v.session.program.length)) =
          .ok (none, 10, 2) := by
    cbv
  rw [hv] at hreached
  simp only [Except.map, Except.ok.injEq, Prod.mk.injEq] at hreached
  obtain ⟨hclosed, hoffset, hlength⟩ := hreached
  have hareas : Layout.ofArea Toolkit.standard (Area.ofSize 0 0) =
      .ok ⟨⟨0, 0, 0, 0⟩, ⟨0, 0, 0, 0⟩, ⟨0, 0, 0, 0⟩, ⟨0, 0, 0, 0⟩⟩ := by rfl
  cases hlayout.symm.trans hareas
  have hrow := hprogram hclosed (by omega)
  rw [hlength] at hrow
  exact ⟨v, offsets, scroll, frame, hv, hoffset, hdraw, hrow⟩

end Viewer

end TapeMachine
