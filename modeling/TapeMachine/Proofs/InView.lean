/-
**Following the run.**

A viewer that follows the run keeps in view what the run is doing: the instruction that is executed
next, the event that was logged last, and the cell the pointer is on.  In each pane that is what
stands out, and a reader looks for nothing else.  So two things have to be true of each pane.  What
stands out is there, on screens of every size, wherever the pane was scrolled to before; and nothing
else stands out.

The panes share one rule for how far they are scrolled, but not what is a line to it.  A line of the
program pane holds as many instructions as the pane is wide, a line of the output pane one event,
and a line of the tape pane a cell or a separator.  The rule is used once for all of them, and says
that the line of interest is between the edges of the pane after the offset was cut off at the last
line.  What is left for each pane is to say in which line something stands out.

Main definitions:

* `TapeMachine.Screen.Cell.StandsOut` — a cell is bold, or its colours are exchanged;
* `TapeMachine.Screen.HighlightsCell`, `TapeMachine.Screen.HighlightsRow` — one cell, or one row, of
  an area shows something, and nothing else stands out in the area;
* `TapeMachine.Viewer.InView` — a screen shows in each pane what the run is doing.

Main results:

* `TapeMachine.settleOffset_follows` — **a pane that follows has its line of interest in view**;
* `TapeMachine.Viewer.eq_of_programGlyph?_standsOut`,
  `TapeMachine.Viewer.eq_of_outputGlyph?_standsOut`,
  `TapeMachine.Viewer.eq_of_tapeGlyph?_standsOut` — what stands out in each pane;
* `TapeMachine.Viewer.exists_draw_inView` — a viewer that follows has the run in view;
* `TapeMachine.Viewer.following_keeps_the_run_in_view` — what that means for every viewer that can
  come about.
-/

import TapeMachine.Proofs.Interaction
import TapeMachine.Proofs.Listing
import TapeMachine.Screen.Standard

set_option relaxedAutoImplicit false
set_option autoImplicit false

namespace TapeMachine

/-! ### Standing out -/

/-- The style asks for bold characters or for exchanged colours. -/
def Style.StandsOut (s : Style) : Prop := s.bold = true ∨ s.reversed = true

/-- The cell is bold, or its colours are exchanged. -/
def Screen.Cell.StandsOut (c : Screen.Cell) : Prop := c.bold = true ∨ c.reversed = true

theorem Style.not_standsOut_ofForeground (color : Color) : ¬(ofForeground color).StandsOut := by
  rintro (h | h) <;> cases h

theorem Style.not_standsOut_plain : ¬plain.StandsOut := by
  rintro (h | h) <;> cases h

/-- On a blank screen a cell stands out when its glyph does. -/
theorem Screen.Cell.standsOut_ofGlyph?_iff {g? : Option Glyph} :
    (ofGlyph? g?).StandsOut ↔ ∃ g, g? = some g ∧ g.style.StandsOut := by
  cases g? with
  | none =>
      refine iff_of_false (fun h => ?_) (fun h => ?_)
      · rcases h with h | h <;> cases h
      · obtain ⟨g, hg, -⟩ := h
        cases hg
  | some g =>
      simp [StandsOut, Style.StandsOut, ofGlyph?, Glyph.draw?, Glyph.draw, Style.apply, blank]

theorem style_of_mem_glyphs {style : Style} {t : List Char} {g : Glyph} (h : g ∈ glyphs style t) :
    g.style = style := by
  obtain ⟨c, -, rfl⟩ := List.mem_map.mp h
  rfl

namespace Screen

/-- A cell of an area shows a glyph, and nothing else stands out in the area. -/
structure HighlightsCell (s : Screen) (a : Area) (x y : Nat) (g : Glyph) : Prop where
  inside : a.contains x y = true
  cell : s.cell x y = Cell.ofGlyph? (some g)
  only : ∀ x' y', a.contains x' y' = true → (s.cell x' y').StandsOut → x' = x ∧ y' = y

/-- A row of an area shows a line, cut off at the width of the area, and nothing stands out in the
other rows. -/
structure HighlightsRow (s : Screen) (a : Area) (row : Nat) (text : List Glyph) : Prop where
  row_lt : row < a.height
  cell : ∀ i < a.width, s.cell (a.x + i) (a.y + row) = Cell.ofGlyph? text[i]?
  only : ∀ x y, a.contains x y = true → (s.cell x y).StandsOut → y = a.y + row

namespace Shows

variable {s : Screen} {a : Area} {glyph? : Nat → Nat → Option Glyph} {offset target : Nat}

/-- What stands out in an area that shows lines is a glyph of one of the lines. -/
theorem exists_of_standsOut (h : s.Shows a glyph?) {x y : Nat} (hxy : a.contains x y = true)
    (hout : (s.cell x y).StandsOut) :
    ∃ i j g, x = a.x + i ∧ y = a.y + j ∧ glyph? j i = some g ∧ g.style.StandsOut := by
  obtain ⟨⟨hx, hx'⟩, hy, hy'⟩ := (a.contains_iff x y).mp hxy
  rw [← Nat.add_sub_of_le hx, ← Nat.add_sub_of_le hy, h _ _ (by omega) (by omega),
    Cell.standsOut_ofGlyph?_iff] at hout
  obtain ⟨g, hg, hout⟩ := hout
  exact ⟨x - a.x, y - a.y, g, by omega, by omega, hg, hout⟩

/-- Where an area shows lines from an offset on, and something stands out at one place only, the
cell of that place is highlighted. -/
theorem highlightsCell (h : s.Shows a fun j => glyph? (offset + j)) (hle : offset ≤ target)
    (hlt : target < offset + a.height) {column : Nat} (hcolumn : column < a.width) {g : Glyph}
    (hg : glyph? target column = some g)
    (honly : ∀ k i g', glyph? k i = some g' → g'.style.StandsOut → k = target ∧ i = column) :
    s.HighlightsCell a (a.x + column) (a.y + (target - offset)) g := by
  have hrow : target - offset < a.height := by omega
  refine ⟨a.contains_add hcolumn hrow, ?_, fun x y hxy hout => ?_⟩
  · rw [h _ _ hcolumn hrow]
    dsimp only
    rw [Nat.add_sub_of_le hle, hg]
  · obtain ⟨i, j, g', rfl, rfl, hg', hout⟩ := h.exists_of_standsOut hxy hout
    obtain ⟨hline, rfl⟩ := honly _ _ g' hg' hout
    exact ⟨rfl, by omega⟩

/-- Where an area shows lines from an offset on, and something stands out in one line only, the row
of that line is highlighted. -/
theorem highlightsRow (h : s.Shows a fun j => glyph? (offset + j)) (hle : offset ≤ target)
    (hlt : target < offset + a.height) {text : List Glyph}
    (htext : ∀ i, glyph? target i = text[i]?)
    (honly : ∀ k i g, glyph? k i = some g → g.style.StandsOut → k = target) :
    s.HighlightsRow a (target - offset) text := by
  have hrow : target - offset < a.height := by omega
  refine ⟨hrow, fun i hi => ?_, fun x y hxy hout => ?_⟩
  · rw [h i _ hi hrow]
    dsimp only
    rw [Nat.add_sub_of_le hle, htext]
  · obtain ⟨i, j, g, -, rfl, hg, hout⟩ := h.exists_of_standsOut hxy hout
    have := honly _ _ g hg hout
    omega

end Shows

end Screen

/-! ### The rule for the offsets -/

/-- **A pane that follows has its line of interest in view.**  The offset is at most that line, so
cutting it off at the last line does nothing to it. -/
theorem settleOffset_follows {a : Area} {target count : Nat} (ha : 0 < a.height)
    (h : target < count) (offset : Nat) :
    settleOffset true offset target a.viewHeight count ≤ target ∧
      target < settleOffset true offset target a.viewHeight count + a.height := by
  have hle := bringIntoView_le offset target a.viewHeight
  have hlt := lt_bringIntoView_add offset target a.viewHeight
  have hheight : max a.viewHeight 1 = a.height := by
    unfold Area.viewHeight
    omega
  have hsettle : settleOffset true offset target a.viewHeight count =
      bringIntoView offset target a.viewHeight := by
    rw [settleOffset, if_pos rfl]
    omega
  rw [hheight] at hlt
  rw [hsettle]
  exact ⟨hle, hlt⟩

namespace Viewer

open Text

variable {v : Viewer} {theme : Theme} {a : Area}

/-! ### The program pane -/

/-- The current instruction is in view. -/
theorem programOffset_follows (hfollow : v.follow = true) (ha : 0 < a.height)
    (h : v.session.state.position < v.session.program.length) :
    v.programOffset a ≤ v.session.state.position / perRow a.width ∧
      v.session.state.position / perRow a.width < v.programOffset a + a.height := by
  have hrow : v.session.state.position / perRow a.width <
      programRows v.session.program.length (perRow a.width) := by
    rw [lt_programRows_iff (perRow_pos _)]
    exact Nat.lt_of_le_of_lt (Nat.div_mul_le_self _ _) h
  rw [programOffset_eq (Nat.zero_lt_of_lt h), hfollow]
  exact settleOffset_follows ha hrow _

/-- Where the current instruction stands. -/
theorem programGlyph?_current {p : Program} {current perRow : Nat} {instruction : Instruction}
    (hp : 0 < perRow) (h : p.get? current = some instruction) :
    programGlyph? theme p current perRow (current / perRow) (2 * (current % perRow)) =
      some ⟨instruction.toChar, Style.markOf (theme .programCurrent)⟩ := by
  rw [programGlyph?_of_index theme hp, h, Option.map_some, if_pos rfl]

/-- **Only the current instruction stands out in the program pane.** -/
theorem eq_of_programGlyph?_standsOut {p : Program} {current perRow line column : Nat} {g : Glyph}
    (h : programGlyph? theme p current perRow line column = some g) (hg : g.style.StandsOut) :
    line = current / perRow ∧ column = 2 * (current % perRow) := by
  unfold programGlyph? at h
  split at h
  · next hcolumn =>
      obtain ⟨instruction, -, rfl⟩ := Option.map_eq_some_iff.mp h
      split at hg
      · next heven =>
          dsimp only at hg
          split at hg
          · next hcurrent =>
              obtain ⟨hrow, hplace⟩ := div_mod_of_place line hcolumn
              rw [hcurrent] at hrow hplace
              rw [hrow, hplace]
              exact ⟨rfl, by omega⟩
          · exact absurd hg (Style.not_standsOut_ofForeground _)
      · exact absurd hg Style.not_standsOut_plain
  · cases h

/-! ### The output pane -/

/-- The latest event is in view. -/
theorem outputOffset_follows (hfollow : v.follow = true) (ha : 0 < a.height)
    (h : 0 < v.session.state.log.size) :
    v.outputOffset a ≤ v.session.state.log.size - 1 ∧
      v.session.state.log.size - 1 < v.outputOffset a + a.height := by
  rw [outputOffset_eq h, hfollow]
  exact settleOffset_follows ha (Nat.sub_one_lt_of_lt h) _

/-- Where the latest event stands. -/
theorem outputGlyph?_latest {display : Display} {log : Array Event} {event : Event}
    (h : log.back? = some event) (column : Nat) :
    outputGlyph? theme display log (log.size - 1) column =
      (glyphs (eventStyle theme true event) (event.line display))[column]? := by
  rw [Array.back?_eq_getElem?] at h
  have hsize : log.size - 1 < log.size := (Array.getElem?_eq_some_iff.mp h).choose
  have hlast : log.size - 1 + 1 = log.size := by omega
  rw [outputGlyph?, h, Option.bind_some, decide_eq_true hlast]

/-- **Only the latest event stands out in the output pane.** -/
theorem eq_of_outputGlyph?_standsOut {display : Display} {log : Array Event} {line column : Nat}
    {g : Glyph} (h : outputGlyph? theme display log line column = some g)
    (hg : g.style.StandsOut) : line = log.size - 1 := by
  obtain ⟨event, -, hglyph⟩ := Option.bind_eq_some_iff.mp h
  rw [style_of_mem_glyphs (List.mem_of_getElem? hglyph)] at hg
  by_cases hlast : line + 1 = log.size
  · omega
  · rw [decide_eq_false hlast] at hg
    have hplain : ¬(eventStyle theme false event).StandsOut := by
      cases event <;> exact Style.not_standsOut_ofForeground _
    exact absurd hg hplain

/-- The line of an event is not empty. -/
theorem length_line_pos (display : Display) (event : Event) :
    0 < (event.line display).length := by
  unfold Event.line
  split
  · split
    · unfold Event.text
      dsimp only
      rw [String.toList_append, List.length_append]
      exact Nat.lt_of_lt_of_le (by decide) (Nat.le_add_right _ _)
    · simp
  · unfold Event.text
    dsimp only
    rw [String.toList_append, List.length_append]
    exact Nat.lt_of_lt_of_le (by decide) (Nat.le_add_right _ _)

/-- The line of the latest event begins with a bold character. -/
theorem bold_of_latest (theme : Theme) (display : Display) (event : Event) :
    (Screen.Cell.ofGlyph?
      (glyphs (eventStyle theme true event) (event.line display))[0]?).bold = true := by
  rw [glyphs, List.getElem?_map, List.getElem?_eq_getElem (length_line_pos display event)]
  cases event <;> rfl

/-! ### The tape pane -/

/-- The line of the current cell is in view. -/
theorem tapeOffset_follows {m : Machine} (hs : v.session.state.Fits m)
    (hlowest : v.session.state.lowest = 0) (hfollow : v.follow = true) (ha : 0 < a.height) :
    v.tapeOffset a ≤ v.session.state.currentLine ∧
      v.session.state.currentLine < v.tapeOffset a + a.height := by
  have hline := (hs.getElem?_listing_eq_current_iff hlowest _).mpr rfl
  obtain ⟨hlt, -⟩ := List.getElem?_eq_some_iff.mp hline
  rw [tapeOffset, hfollow]
  exact settleOffset_follows ha hlt _

/-- Where the current cell stands. -/
theorem tapeGlyph?_current {m : Machine} {s : State} (hs : s.Fits m) (hlowest : s.lowest = 0)
    {display : Display} {width : Nat} (column : Nat) :
    tapeGlyph? theme display s width s.currentLine column =
      (tapeLine theme display s width (.cell s.pointer)).glyphs[column]? := by
  rw [tapeGlyph?, (hs.getElem?_listing_eq_current_iff hlowest _).mpr rfl, Option.bind_some]

/-- The glyphs of the line of a cell. -/
theorem glyphs_cellLine (theme : Theme) (display : Display) (s : State) (width i : Nat) :
    (tapeLine theme display s width (.cell i)).glyphs =
      glyphs (Style.ofForeground (theme .tapeIndex)) (padLeft 5 (decimal i) ++ [' ']) ++
        glyphs (valueStyle theme (i = s.pointer) ((s.tape.get? i).getD 0))
          (valueText display ((s.tape.get? i).getD 0)) ++
        glyphs (Style.ofForeground (theme .tapeIndex))
          (' ' :: padLeft 3 (decimal ((s.tape.get? i).getD 0).toNat)) := by
  simp [tapeLine]

/-- The value of a cell that is not the current one does not stand out. -/
theorem not_standsOut_valueStyle (value : UInt8) : ¬(valueStyle theme false value).StandsOut := by
  rw [valueStyle, if_neg Bool.false_ne_true]
  split <;> exact Style.not_standsOut_ofForeground _

/-- **Only the current cell stands out in the tape pane.** -/
theorem eq_of_tapeGlyph?_standsOut {m : Machine} {s : State} (hs : s.Fits m)
    (hlowest : s.lowest = 0) {display : Display} {width line column : Nat} {g : Glyph}
    (h : tapeGlyph? theme display s width line column = some g) (hg : g.style.StandsOut) :
    line = s.currentLine := by
  obtain ⟨l, hl, hglyph⟩ := Option.bind_eq_some_iff.mp h
  have hglyph := List.mem_of_getElem? hglyph
  -- the numbers at both sides of a value, and the separators, are in the style of the margin
  have hmargin : ∀ t, g ∉ glyphs (Style.ofForeground (theme .tapeIndex)) t := by
    intro t ht
    rw [style_of_mem_glyphs ht] at hg
    exact Style.not_standsOut_ofForeground _ hg
  cases l with
  | separator =>
      rw [tapeLine, Line.glyphs_styled] at hglyph
      exact absurd hglyph (hmargin _)
  | cell i =>
      rw [glyphs_cellLine, List.mem_append, List.mem_append] at hglyph
      rcases hglyph with (hindex | hvalue) | hnumber
      · exact absurd hindex (hmargin _)
      · rw [style_of_mem_glyphs hvalue] at hg
        have hi : i = s.pointer := by
          by_contra hi
          rw [decide_eq_false hi] at hg
          exact not_standsOut_valueStyle _ hg
        rw [← hs.getElem?_listing_eq_current_iff hlowest, hl, hi]
      · exact absurd hnumber (hmargin _)

/-! ### The run in view -/

/-- A screen shows in each pane what the run is doing, if the pane has a cell to show it in.  Of the
program one cell stands out, and shows the current instruction.  Of the output only the line of the
latest event stands out, and of the tape only that of the current cell. -/
structure InView (v : Viewer) (theme : Theme) (t : Toolkit) (layout : Layout) (s : Screen) :
    Prop where
  program : v.editor = none → 0 < v.session.program.length →
    0 < (t.inside layout.program).width → 0 < (t.inside layout.program).height →
    ∃ x y instruction, v.session.program.get? v.session.state.position = some instruction ∧
      s.HighlightsCell (t.inside layout.program) x y
        ⟨instruction.toChar, Style.markOf (theme .programCurrent)⟩
  output : ∀ event, v.session.state.log.back? = some event →
    0 < (t.inside layout.output).width → 0 < (t.inside layout.output).height →
    ∃ row, (s.cell (t.inside layout.output).x ((t.inside layout.output).y + row)).bold = true ∧
      s.HighlightsRow (t.inside layout.output) row
        (glyphs (eventStyle theme true event) (event.line v.display))
  tape : 0 < (t.inside layout.tape).width → 0 < (t.inside layout.tape).height →
    ∃ row, s.HighlightsRow (t.inside layout.tape) row
      (tapeLine theme v.display v.session.state (t.inside layout.tape).width
        (.cell v.session.state.pointer)).glyphs

variable {t : Toolkit} (ht : t.Lawful)

include ht in
/-- **A viewer that follows has the run in view**, wherever its panes were scrolled to. -/
theorem exists_draw_inView {text : String} {m : Machine} {d : Delays} (hsound : v.Sound text m d)
    (hfollow : v.follow = true) (hhelp : v.showHelp = false) (theme : Theme)
    (width height : Nat) :
    ∃ layout w frame, Layout.ofArea t (Area.ofSize width height) = .ok layout ∧
      v.draw t theme width height = .ok (w, frame) ∧ v.InView theme t layout (t.screen frame) := by
  have hvalid := hsound.replays.valid
  have hlowest := State.lowest_eq_zero hsound.replays.state
  obtain ⟨layout, hlayout, htiles⟩ := ht.exists_layout (Area.ofSize width height)
  obtain ⟨frame, hdraw, hframe⟩ :=
    v.exists_frame theme ht (fun _ => hsound.row_lt) hlayout htiles
  have hframe := hframe hhelp
  refine ⟨layout, _, frame, hlayout, hdraw, ?_, ?_, ?_⟩
  · intro he hlength hwidth hheight
    have hposition : v.session.state.position < v.session.program.length := by
      have := hvalid.position
      omega
    have hshows := hframe.program (Option.map_eq_none_iff.mpr he) hlength
    rw [offsets_program_settled he] at hshows
    obtain ⟨hle, hlt⟩ := programOffset_follows hfollow hheight hposition
    have hp := perRow_pos (t.inside layout.program).width
    have hcolumn := two_mul_lt_width hwidth (Nat.mod_lt v.session.state.position hp)
    have hinstruction := Array.getElem?_eq_getElem hposition
    exact ⟨_, _, _, hinstruction, hshows.highlightsCell hle hlt hcolumn
      (programGlyph?_current hp hinstruction) fun _ _ _ => eq_of_programGlyph?_standsOut⟩
  · intro event hevent hwidth hheight
    have hsize : 0 < v.session.state.log.size := by
      rw [Array.back?_eq_getElem?] at hevent
      exact Nat.zero_lt_of_lt (Array.getElem?_eq_some_iff.mp hevent).choose
    obtain ⟨hle, hlt⟩ := outputOffset_follows hfollow hheight hsize
    have hlight := (hframe.output hsize).highlightsRow hle hlt (outputGlyph?_latest hevent)
      fun _ _ _ => eq_of_outputGlyph?_standsOut
    refine ⟨_, ?_, hlight⟩
    rw [← Nat.add_zero (t.inside layout.output).x, hlight.cell 0 hwidth]
    exact bold_of_latest theme v.display event
  · intro hwidth hheight
    obtain ⟨hle, hlt⟩ := tapeOffset_follows hvalid.toFits hlowest hfollow hheight
    exact ⟨_, hframe.tape.highlightsRow hle hlt (tapeGlyph?_current hvalid.toFits hlowest)
      fun _ _ _ => eq_of_tapeGlyph?_standsOut hvalid.toFits hlowest⟩

/-- **Following keeps the run in view.**  However a viewer came about, if it follows the run and
help does not cover it, then a frame of any size that a lawful toolkit draws shows in each pane what
the run is doing, wherever the panes and the editor were scrolled to before. -/
theorem following_keeps_the_run_in_view {t : Toolkit} (ht : t.Lawful) (text source : String)
    (filename : Option String) (m : Machine) (d : Delays) (ops : List Operation) :
    ∃ v, ops.foldlM (perform t) (ofSession (Session.load text m d) source filename) = .ok v ∧
      (v.follow = true → v.showHelp = false →
        ∀ (offsets : Offsets) (scroll : Nat) (theme : Theme) (width height : Nat),
          ∃ layout w frame, Layout.ofArea t (Area.ofSize width height) = .ok layout ∧
            (v.scrolledTo offsets scroll).draw t theme width height = .ok (w, frame) ∧
            v.InView theme t layout (t.screen frame)) := by
  obtain ⟨v, text', hv, hsound⟩ := (sound_ofSession text source filename m d).exists_reached ht ops
  refine ⟨v, hv, fun hfollow hhelp offsets scroll theme width height => ?_⟩
  obtain ⟨layout, w, frame, hlayout, hdraw, hview⟩ :=
    exists_draw_inView ht (hsound.scrolledTo offsets scroll) hfollow hhelp theme width height
  exact ⟨layout, w, frame, hlayout, hdraw,
    fun he => hview.program (Option.map_eq_none_iff.mpr he), hview.output, hview.tape⟩

/-- Where there is room for one instruction, it is the current one that is shown. -/
theorem one_cell_shows_the_current_instruction :
    let v := ofSession (Session.load "+." Machine.standard Delays.standard) "+." none
    ∃ w frame, (v.scrolledTo ⟨1, 0, 0⟩ 0).draw Toolkit.standard Theme.standard 4 8 =
        .ok (w, frame) ∧
      (Toolkit.standard.screen frame).cell 1 1 =
        Screen.Cell.ofGlyph? (some ⟨'+', Style.markOf (Theme.standard .programCurrent)⟩) := by
  intro v
  obtain ⟨v', hv, hfollow⟩ := following_keeps_the_run_in_view Toolkit.lawful_standard "+." "+." none
    Machine.standard Delays.standard []
  cases hv
  obtain ⟨layout, w, frame, hlayout, hdraw, hview⟩ :=
    hfollow rfl rfl ⟨1, 0, 0⟩ 0 Theme.standard 4 8
  have hareas : Layout.ofArea Toolkit.standard (Area.ofSize 4 8) =
      .ok ⟨⟨0, 0, 3, 3⟩, ⟨0, 3, 3, 3⟩, ⟨3, 0, 1, 6⟩, ⟨0, 6, 4, 2⟩⟩ := by rfl
  cases hlayout.symm.trans hareas
  obtain ⟨x, y, instruction, hcurrent, hlight⟩ :=
    hview.program rfl (by decide) (by decide) (by decide)
  have hinside : Toolkit.standard.inside ⟨0, 0, 3, 3⟩ = ⟨1, 1, 1, 1⟩ := by rfl
  have hxy := hlight.inside
  rw [hinside, Area.contains_iff] at hxy
  dsimp only at hxy
  obtain ⟨rfl, rfl⟩ : x = 1 ∧ y = 1 := by omega
  have hinstruction : some .increment = some instruction := hcurrent
  cases hinstruction
  exact ⟨w, frame, hdraw, hlight.cell⟩

end Viewer

end TapeMachine
