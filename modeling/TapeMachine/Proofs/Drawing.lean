/-
**Drawing.**

A frame is put together from slices of the program, of the log and of the lines that are edited.
This module shows that none of the slices is out of range, whatever the size of the screen and
however far the panes were scrolled before.  Each pane settles its offset first and cuts its slice
afterwards, so the reason is in the arithmetic of the offset and not in the history of the viewer:
only the editor has to know that its cursor is in a line.

What a frame shows and what it leaves behind is said here as well.  A pane is a window over lines
that do not depend on how far it is scrolled: which glyph stands at a column of a line is a function
of the run alone, and a row of the pane shows the line that lies as far behind its offset.  What is
left behind is the viewer the frame was drawn from, with its offsets settled.  All of this is so for
every toolkit that obeys the laws.

Main definitions:

* `TapeMachine.Viewer.programGlyph?`, `TapeMachine.Viewer.outputGlyph?`,
  `TapeMachine.Viewer.tapeGlyph?`, `TapeMachine.Viewer.editorGlyph?` — the glyph at a column of a
  line of each pane;
* `TapeMachine.Viewer.scrolledTo` — a viewer with its panes and its editor scrolled;
* `TapeMachine.Viewer.settled` — a viewer with the offsets that a frame settles;
* `TapeMachine.Viewer.FrameOf` — a screen shows a viewer.

Main results:

* `TapeMachine.Viewer.exists_drawProgram`, `TapeMachine.Viewer.exists_drawEditor`,
  `TapeMachine.Viewer.exists_drawOutput`, `TapeMachine.Viewer.exists_drawTape` — each pane is drawn;
* `TapeMachine.Viewer.exists_frame` — **a frame is drawn**, it leaves the viewer settled, and it
  shows that viewer;
* `TapeMachine.Viewer.exists_draw` — so a frame changes nothing but how far the panes are scrolled;
* `TapeMachine.Viewer.shows_tape_of_draw` — a frame shows the tape whatever stands beside it.
-/

import Mathlib.Data.List.Forall2
import TapeMachine.Proofs.Panes
import TapeMachine.Proofs.Printable

set_option relaxedAutoImplicit false
set_option autoImplicit false

namespace TapeMachine

/-- A list of results is a result when each of them is one, and keeps what is known of each. -/
theorem exists_mapM_eq_ok {ε α β : Type} {f : α → Except ε β} {P : α → β → Prop} {l : List α}
    (h : ∀ x ∈ l, ∃ y, f x = .ok y ∧ P x y) : ∃ ys, l.mapM f = .ok ys ∧ List.Forall₂ P l ys := by
  induction l with
  | nil => exact ⟨[], rfl, .nil⟩
  | cons x l ih =>
      obtain ⟨y, hy, hxy⟩ := h x (List.mem_cons_self ..)
      obtain ⟨ys, hys, hall⟩ := ih fun z hz => h z (List.mem_cons_of_mem _ hz)
      refine ⟨y :: ys, ?_, .cons hxy hall⟩
      rw [List.mapM_cons, hy]
      simp only [bind, Except.bind, hys]
      rfl

/-- Some lines are known when each of them is: the glyph at a column of one of the first `n` is the
one that is given for it, and behind them there is none. -/
theorem exists_mapM_range_eq_ok {ε : Type} {f : Nat → Except ε Line}
    {glyph? : Nat → Nat → Option Glyph} {n : Nat}
    (h : ∀ j < n, ∃ line, f j = .ok line ∧ line.Printable ∧ ∀ i, line.glyphs[i]? = glyph? j i) :
    ∃ lines, (List.range n).mapM f = .ok lines ∧ (∀ l ∈ lines, l.Printable) ∧
      ∀ j i, Line.glyphAt? lines j i = if j < n then glyph? j i else none := by
  obtain ⟨lines, hlines, hall⟩ := exists_mapM_eq_ok (l := List.range n) fun j hj =>
    h j (List.mem_range.mp hj)
  obtain ⟨hlength, hget⟩ := List.forall₂_iff_get.mp hall
  rw [List.length_range] at hlength
  refine ⟨lines, hlines, fun l hl => ?_, fun j i => ?_⟩
  · obtain ⟨j, hj, rfl⟩ := List.getElem_of_mem hl
    exact (hget j (by rwa [List.length_range, hlength]) hj).1
  · rw [Line.glyphAt?]
    split
    · next hj =>
        have hline := (hget j (by rwa [List.length_range]) (hlength ▸ hj)).2
        simp only [List.get_eq_getElem, List.getElem_range] at hline
        rw [List.getElem?_eq_getElem (hlength ▸ hj), Option.bind_some, hline i]
    · next hj =>
        rw [List.getElem?_eq_none (by omega), Option.bind_none]

/-- Where each element of a list stands for two, the one that is asked for is found by halves. -/
theorem getElem?_flatMap_pair {α β : Type} (l : List α) (f g : α → β) (i : Nat) :
    (l.flatMap fun a => [f a, g a])[i]? =
      l[i / 2]?.map fun a => if i % 2 = 0 then f a else g a := by
  induction l generalizing i with
  | nil => simp
  | cons a l ih =>
      match i with
      | 0 => rfl
      | 1 => rfl
      | i + 2 =>
          have hdiv : (i + 2) / 2 = i / 2 + 1 := by omega
          have hmod : (i + 2) % 2 = i % 2 := by omega
          rw [hdiv, hmod, List.getElem?_cons_succ, ← ih]
          rfl

theorem Program.getElem?_slice (p : Program) (start stop i : Nat) :
    (p.slice start stop)[i]? = if start + i < stop then p.get? (start + i) else none := by
  rw [slice, Array.toList_extract, List.extract_eq_take_drop, List.getElem?_take,
    List.getElem?_drop, get?_eq_getElem?_toList]
  by_cases h : start + i < stop
  · rw [if_pos h, if_pos (by omega)]
    rfl
  · rw [if_neg h, if_neg (by omega)]

namespace Viewer

variable (v : Viewer) (theme : Theme) {t : Toolkit} (ht : t.Lawful)

/-- The viewer with its panes and its editor scrolled. -/
def scrolledTo (offsets : Offsets) (scroll : Nat) : Viewer :=
  { v with offsets := offsets, editor := v.editor.map fun e => { e with scroll := scroll } }

/-! ### The program pane -/

/-- The glyph at a column of a line of the program pane.  A line holds `perRow` instructions, each
of which takes two columns. -/
def programGlyph? (p : Program) (current perRow line column : Nat) : Option Glyph :=
  if column / 2 < perRow then
    (p.get? (line * perRow + column / 2)).map fun instruction =>
      if column % 2 = 0 then
        ⟨instruction.toChar,
          if line * perRow + column / 2 = current then Style.markOf (theme .programCurrent)
          else Style.ofForeground (theme .programToken)⟩
      else ⟨' ', Style.plain⟩
  else none

/-- The first row that the program pane shows, when it has the given area for its lines. -/
def programOffset (a : Area) : Nat :=
  if v.session.program.isEmpty then v.offsets.program
  else
    settleOffset v.follow v.offsets.program (v.session.state.position / perRow a.width) a.viewHeight
      (programRows v.session.program.length (perRow a.width))

variable {v} in
theorem programOffset_eq (h : 0 < v.session.program.length) (a : Area) :
    v.programOffset a =
      settleOffset v.follow v.offsets.program (v.session.state.position / perRow a.width)
        a.viewHeight (programRows v.session.program.length (perRow a.width)) := by
  refine if_neg ?_
  rw [Program.isEmpty_iff]
  exact Nat.ne_of_gt h

theorem perRow_pos (width : Nat) : 0 < perRow width := Nat.le_max_right _ _

/-- A row has room for its instructions, if the pane has a column at all. -/
theorem two_mul_lt_width {width i : Nat} (hw : 0 < width) (hi : i < perRow width) :
    2 * i < width := by
  unfold perRow at hi
  omega

/-- The row of an instruction, and which of the instructions of its row it is. -/
theorem div_mod_of_place {perRow i : Nat} (line : Nat) (h : i < perRow) :
    (line * perRow + i) / perRow = line ∧ (line * perRow + i) % perRow = i :=
  (Nat.div_mod_unique (Nat.zero_lt_of_lt h)).mpr ⟨by rw [Nat.add_comm, Nat.mul_comm], h⟩

/-- The rows that a program takes are those that begin inside the program. -/
theorem lt_programRows_iff {length perRow row : Nat} (hp : 0 < perRow) :
    row < programRows length perRow ↔ row * perRow < length := by
  have hrow : row < programRows length perRow ↔ (row + 1) * perRow ≤ length + perRow - 1 :=
    Nat.le_div_iff_mul_le hp
  rw [hrow, Nat.succ_mul]
  omega

/-- The glyph of an instruction stands in the row and at the column that its number gives. -/
theorem programGlyph?_of_index {perRow : Nat} (hp : 0 < perRow) (p : Program) (current i : Nat) :
    programGlyph? theme p current perRow (i / perRow) (2 * (i % perRow)) =
      (p.get? i).map fun instruction => ⟨instruction.toChar,
        if i = current then Style.markOf (theme .programCurrent)
        else Style.ofForeground (theme .programToken)⟩ := by
  have hcolumn : 2 * (i % perRow) / 2 = i % perRow := by omega
  have heven : 2 * (i % perRow) % 2 = 0 := by omega
  simp only [programGlyph?, hcolumn, heven, if_pos (Nat.mod_lt i hp), Nat.div_add_mod', if_true]

/-- Behind the rows that a program takes there is nothing. -/
theorem programGlyph?_of_le {p : Program} {perRow line : Nat} (hp : 0 < perRow)
    (h : programRows p.length perRow ≤ line) (current column : Nat) :
    programGlyph? theme p current perRow line column = none := by
  have hlength : p.length ≤ line * perRow := by
    rw [← Nat.not_lt, ← lt_programRows_iff hp]
    exact Nat.not_lt.mpr h
  have hget : p.get? (line * perRow + column / 2) = none :=
    Array.getElem?_eq_none (Nat.le_trans hlength (Nat.le_add_right _ _))
  rw [programGlyph?, hget, Option.map_none, ite_self]

theorem exists_programRow (p : Program) (current : Nat) {perRow : Nat} (hp : 0 < perRow) (row : Nat)
    (h : row < programRows p.length perRow) :
    ∃ line, programRow theme p current perRow row = .ok line ∧ line.Printable ∧
      ∀ i, line.glyphs[i]? = programGlyph? theme p current perRow row i := by
  have hstart : row * perRow < p.length := (lt_programRows_iff hp).mp h
  have hinside : row * perRow ≤ min (row * perRow + perRow) p.length ∧
      min (row * perRow + perRow) p.length ≤ p.length := by omega
  simp only [programRow, instructionsBetween, if_pos hinside]
  refine ⟨_, rfl, fun s hs => ?_, fun i => ?_⟩
  · obtain ⟨⟨instruction, k⟩, -, hs⟩ := List.mem_flatMap.mp hs
    rcases List.mem_cons.mp hs with rfl | hs
    · simpa using printable_toChar instruction
    · cases List.mem_singleton.mp hs
      decide
  · -- an instruction and the space behind it are two spans, of one glyph each
    rw [Line.glyphs_ofSpans, List.flatMap_assoc]
    simp only [List.flatMap_cons, List.flatMap_nil, glyphs, List.map_cons, List.map_nil,
      List.append_nil, List.cons_append, List.nil_append]
    rw [getElem?_flatMap_pair, List.getElem?_zipIdx, Program.getElem?_slice, programGlyph?,
      Option.map_map]
    by_cases hi : i / 2 < perRow
    · rw [if_pos hi]
      by_cases hlength : row * perRow + i / 2 < p.length
      · rw [if_pos (by omega)]
        simp only [Function.comp_def, Nat.zero_add]
      · have hget : p.get? (row * perRow + i / 2) = none :=
          Array.getElem?_eq_none (Nat.not_lt.mp hlength)
        rw [hget, ite_self]
        rfl
    · rw [if_neg hi, if_neg (by omega)]
      rfl

include ht in
theorem exists_drawProgram (area : Area) :
    ∃ pane : PaneText,
      v.drawProgram t theme area = .ok ⟨v.programOffset (t.inside area), pane⟩ ∧
      (∀ l ∈ pane.lines, l.Printable) ∧
      (0 < v.session.program.length → ∀ j < (t.inside area).viewHeight, ∀ i,
        Line.glyphAt? pane.lines j i = programGlyph? theme v.session.program
          v.session.state.position (perRow (t.inside area).width)
            (v.programOffset (t.inside area) + j) i) := by
  unfold drawProgram programOffset
  dsimp only
  rw [ht.inner_paneBox]
  cases hempty : v.session.program.isEmpty with
  | true =>
      have hlength := (Program.isEmpty_iff _).mp hempty
      refine ⟨⟨_, _, _⟩, rfl, ?_, fun h => absurd hlength (Nat.ne_of_gt h)⟩
      simp only [List.mem_singleton, forall_eq]
      exact Line.printable_raw.mpr (by decide)
  | false =>
      have hp := perRow_pos (t.inside area).width
      simp only [Bool.false_eq_true, if_false]
      generalize settleOffset v.follow _ _ _ _ = offset
      obtain ⟨lines, hlines, hprintable, hglyph⟩ := exists_mapM_range_eq_ok
        (n := min (offset + (t.inside area).viewHeight)
          (programRows v.session.program.length (perRow (t.inside area).width)) - offset)
        fun j hj => exists_programRow theme v.session.program v.session.state.position hp
          (offset + j) (by omega)
      rw [hlines]
      refine ⟨⟨_, _, lines⟩, rfl, hprintable, fun _ j hj i => ?_⟩
      rw [hglyph]
      split
      · rfl
      · exact (programGlyph?_of_le theme hp (by omega) _ _).symm

/-! ### The editor -/

/-- The glyph at a column of a line that is edited. -/
def editorGlyph? (e : Editor) (line column : Nat) : Option Glyph :=
  e.lines[line]?.bind fun text => (glyphs Style.plain text)[column]?

/-- The first line that the editor shows, when it has the given area for its lines. -/
def editorOffset (e : Editor) (a : Area) : Nat := bringIntoView e.scroll e.row a.viewHeight

/-- The place of the cursor in the editor, when it shows its lines from the given one on. -/
def cursorPlace (e : Editor) (a : Area) (offset : Nat) : Nat × Nat :=
  (a.x + min e.column (a.width - 1), a.y + (e.row - offset))

include ht in
theorem exists_drawEditor {e : Editor} (h : e.row < e.lines.length) (area : Area) :
    ∃ pane : PaneText,
      drawEditor e t theme area =
        .ok (⟨editorOffset e (t.inside area), pane⟩,
          cursorPlace e (t.inside area) (editorOffset e (t.inside area))) ∧
      ((∀ l ∈ e.lines, t.Monospaced l) → ∀ l ∈ pane.lines, t.MonospacedLine l) ∧
      ∀ j < (t.inside area).viewHeight, ∀ i,
        Line.glyphAt? pane.lines j i =
          editorGlyph? e (editorOffset e (t.inside area) + j) i := by
  unfold drawEditor editorOffset
  dsimp only
  rw [ht.inner_paneBox]
  have hle := bringIntoView_le e.scroll e.row (t.inside area).viewHeight
  have hview : 0 < (t.inside area).viewHeight := Nat.le_max_right _ _
  generalize bringIntoView e.scroll e.row (t.inside area).viewHeight = offset at hle
  have hslice := sliceList_eq_ok (l := e.lines) (i := offset)
    (j := min (offset + (t.inside area).viewHeight) e.lines.length) (by omega)
      (Nat.min_le_right _ _)
  rw [hslice]
  refine ⟨⟨_, _, _⟩, rfl, fun hmono l hl => ?_, fun j hj i => ?_⟩
  · obtain ⟨text, htext, rfl⟩ := List.mem_map.mp hl
    have hmem := List.mem_of_mem_take (List.mem_of_mem_drop htext)
    exact Toolkit.monospacedLine_raw.mpr (hmono text hmem)
  · simp only [Line.glyphAt?, editorGlyph?, List.getElem?_map, List.getElem?_drop,
      List.getElem?_take, Option.bind_map]
    by_cases hlength : offset + j < e.lines.length
    · rw [if_pos (by omega)]
      simp only [Function.comp_def, Line.glyphs_raw]
    · rw [if_neg (by omega), List.getElem?_eq_none (Nat.not_lt.mp hlength)]
      rfl

/-! ### The output pane -/

/-- The style of an event; that of the latest is bold. -/
def eventStyle (latest : Bool) : Event → Style
  | .value _ => { Style.ofForeground (theme .outputValue) with bold := latest }
  | .error _ => { Style.ofForeground (theme .outputError) with bold := latest }

/-- The glyph at a column of a line of the output pane. -/
def outputGlyph? (display : Display) (log : Array Event) (line column : Nat) : Option Glyph :=
  log[line]?.bind fun event =>
    (glyphs (eventStyle theme (line + 1 = log.size) event) (event.line display))[column]?

/-- The first event that the output pane shows, when it has the given area for its lines. -/
def outputOffset (a : Area) : Nat :=
  if v.session.state.log.isEmpty then v.offsets.output
  else
    settleOffset v.follow v.offsets.output (v.session.state.log.size - 1) a.viewHeight
      v.session.state.log.size

variable {v} in
theorem outputOffset_eq (h : 0 < v.session.state.log.size) (a : Area) :
    v.outputOffset a =
      settleOffset v.follow v.offsets.output (v.session.state.log.size - 1) a.viewHeight
        v.session.state.log.size := by
  refine if_neg ?_
  rw [Array.isEmpty_iff_size_eq_zero]
  exact Nat.ne_of_gt h

theorem exists_outputLine (display : Display) (log : Array Event) (i : Nat) (h : i < log.size) :
    ∃ line, outputLine theme display log i = .ok line ∧ line.Printable ∧
      ∀ column, line.glyphs[column]? = outputGlyph? theme display log i column := by
  simp only [outputLine, outputGlyph?, Array.getElem?_eq_getElem h, Option.bind_some]
  refine ⟨_, rfl, ?_, fun column => ?_⟩
  · intro s hs
    cases List.mem_singleton.mp hs
    exact printable_eventLine display log[i]
  · rw [Line.glyphs_ofSpans, List.flatMap_singleton]
    cases log[i] <;> rfl

include ht in
theorem exists_drawOutput (area : Area) :
    ∃ pane : PaneText,
      v.drawOutput t theme area = .ok ⟨v.outputOffset (t.inside area), pane⟩ ∧
      (∀ l ∈ pane.lines, l.Printable) ∧
      (0 < v.session.state.log.size → ∀ j < (t.inside area).viewHeight, ∀ i,
        Line.glyphAt? pane.lines j i = outputGlyph? theme v.display v.session.state.log
          (v.outputOffset (t.inside area) + j) i) := by
  unfold drawOutput outputOffset
  dsimp only
  rw [ht.inner_paneBox]
  cases hempty : v.session.state.log.isEmpty with
  | true =>
      have hsize := Array.isEmpty_iff_size_eq_zero.mp hempty
      refine ⟨⟨_, _, _⟩, rfl, ?_, fun h => absurd hsize (Nat.ne_of_gt h)⟩
      simp only [List.mem_singleton, forall_eq]
      exact Line.printable_raw.mpr (by decide)
  | false =>
      simp only [Bool.false_eq_true, if_false]
      generalize settleOffset v.follow _ _ _ _ = offset
      obtain ⟨lines, hlines, hprintable, hglyph⟩ := exists_mapM_range_eq_ok
        (n := min (offset + (t.inside area).viewHeight) v.session.state.log.size - offset)
        fun j hj => exists_outputLine theme v.display v.session.state.log (offset + j) (by omega)
      rw [hlines]
      refine ⟨⟨_, _, lines⟩, rfl, hprintable, fun _ j hj i => ?_⟩
      rw [hglyph]
      split
      · rfl
      · rw [outputGlyph?, Array.getElem?_eq_none (by omega)]
        rfl

/-! ### The tape pane -/

/-- The glyph at a column of a line of the tape pane. -/
def tapeGlyph? (display : Display) (s : State) (width line column : Nat) : Option Glyph :=
  s.listing[line]?.bind fun l => (tapeLine theme display s width l).glyphs[column]?

/-- The first line that the tape pane shows, when it has the given area for its lines. -/
def tapeOffset (a : Area) : Nat :=
  settleOffset v.follow v.offsets.tape v.session.state.currentLine a.viewHeight
    v.session.state.listing.length

theorem printable_tapeLine (display : Display) (s : State) (width : Nat) (l : TapeLine) :
    (tapeLine theme display s width l).Printable := by
  cases l with
  | separator =>
      intro u hu
      cases List.mem_singleton.mp hu
      exact Text.printable_replicate (by decide) width
  | cell i =>
      have hblank : isPrintable ' ' = true := by decide
      simp only [Line.Printable, tapeLine, Line.ofSpans, List.forall_mem_cons]
      refine ⟨?_, printable_valueText _ _, ?_, List.forall_mem_nil _⟩
      · simp [hblank]
      · simp [hblank]

include ht in
theorem exists_drawTape (area : Area) :
    ∃ pane : PaneText,
      v.drawTape t theme area = ⟨v.tapeOffset (t.inside area), pane⟩ ∧
      (∀ l ∈ pane.lines, l.Printable) ∧
      ∀ j < (t.inside area).viewHeight, ∀ i,
        Line.glyphAt? pane.lines j i = tapeGlyph? theme v.display v.session.state
          (t.inside area).width (v.tapeOffset (t.inside area) + j) i := by
  unfold drawTape tapeOffset
  dsimp only
  rw [ht.inner_paneBox]
  refine ⟨⟨_, _, _⟩, rfl, fun l hl => ?_, fun j hj i => ?_⟩
  · obtain ⟨line, -, rfl⟩ := List.mem_map.mp hl
    exact printable_tapeLine theme _ _ _ line
  · simp only [Line.glyphAt?, tapeGlyph?, List.getElem?_map, List.getElem?_take, if_pos hj,
      List.getElem?_drop, Option.bind_map]
    rfl

/-! ### The frame -/

/-- The first row of the program pane, which stays what it was while the editor covers it. -/
def mainOffset (a : Area) : Nat :=
  if v.editor.isSome then v.offsets.program else v.programOffset a

/-- The first line of the editor, while it is open. -/
def editorScroll (a : Area) : Nat := (v.editor.map fun e => editorOffset e a).getD 0

/-- The viewer when the pane in the upper left corner is drawn. -/
def mainSettled (a : Area) : Viewer :=
  v.scrolledTo { v.offsets with program := v.mainOffset a } (v.editorScroll a)

/-- The viewer with the offsets that a frame settles, for the areas that its panes have. -/
def settled (t : Toolkit) (layout : Layout) : Viewer :=
  v.scrolledTo
    ⟨v.mainOffset (t.inside layout.program), v.outputOffset (t.inside layout.output),
      v.tapeOffset (t.inside layout.tape)⟩
    (v.editorScroll (t.inside layout.program))

variable {v} in
theorem offsets_program_settled (h : v.editor = none) (layout : Layout) :
    (v.settled t layout).offsets.program = v.programOffset (t.inside layout.program) := by
  simp only [settled, scrolledTo, mainOffset, h, Option.isSome_none, Bool.false_eq_true, if_false]

/-- A screen shows a viewer: the inside of each pane that has lines to show shows them from the
offset of the pane on, and the cursor stands in the editor while it is open.  The editor shows its
lines when each of their characters takes one cell. -/
structure FrameOf (t : Toolkit) (layout : Layout) (s : Screen) : Prop where
  program : v.editor = none → 0 < v.session.program.length →
    s.Shows (t.inside layout.program) fun j =>
      programGlyph? theme v.session.program v.session.state.position
        (perRow (t.inside layout.program).width) (v.offsets.program + j)
  editor : ∀ e, v.editor = some e → (∀ l ∈ e.lines, t.Monospaced l) →
    s.Shows (t.inside layout.program) fun j => editorGlyph? e (e.scroll + j)
  output : 0 < v.session.state.log.size →
    s.Shows (t.inside layout.output) fun j =>
      outputGlyph? theme v.display v.session.state.log (v.offsets.output + j)
  tape :
    s.Shows (t.inside layout.tape) fun j =>
      tapeGlyph? theme v.display v.session.state (t.inside layout.tape).width (v.offsets.tape + j)
  cursor : s.cursor = v.editor.map fun e => cursorPlace e (t.inside layout.program) e.scroll

include ht in
/-- The pane in the upper left corner is drawn, be it the program or the editor. -/
theorem exists_drawMain (h : ∀ e, v.editor = some e → e.row < e.lines.length) (area : Area) :
    ∃ pane : PaneText,
      v.drawMain t theme area = .ok (v.mainSettled (t.inside area), pane,
        v.editor.map fun e =>
          cursorPlace e (t.inside area) (editorOffset e (t.inside area))) ∧
      (v.editor = none → (∀ l ∈ pane.lines, l.Printable) ∧
        (0 < v.session.program.length → ∀ j < (t.inside area).viewHeight, ∀ i,
          Line.glyphAt? pane.lines j i = programGlyph? theme v.session.program
            v.session.state.position (perRow (t.inside area).width)
              (v.mainOffset (t.inside area) + j) i)) ∧
      (∀ e, v.editor = some e →
        ((∀ l ∈ e.lines, t.Monospaced l) → ∀ l ∈ pane.lines, t.MonospacedLine l) ∧
        ∀ j < (t.inside area).viewHeight, ∀ i, Line.glyphAt? pane.lines j i =
          editorGlyph? e (v.editorScroll (t.inside area) + j) i) := by
  unfold drawMain mainSettled scrolledTo mainOffset editorScroll
  cases he : v.editor with
  | none =>
      obtain ⟨pane, hdraw, hpane⟩ := v.exists_drawProgram theme ht area
      simp only [hdraw, Except.map]
      exact ⟨pane, rfl, fun _ => hpane, nofun⟩
  | some e =>
      obtain ⟨pane, hdraw, hpane⟩ := exists_drawEditor theme ht (h e he) area
      simp only [hdraw, Except.map]
      refine ⟨pane, rfl, nofun, fun e' he' => ?_⟩
      cases he'
      exact hpane

/-- The status line keeps to its area. -/
theorem within_of_mem_drawStatus {area : Area} (p : Placed) (hp : p ∈ v.drawStatus theme area) :
    p.area.Within area := by
  simp only [drawStatus, List.mem_cons, List.not_mem_nil, or_false] at hp
  rcases hp with rfl | rfl
  · exact Area.Within.refl area
  · exact Layout.statusTextArea_within area

/-- Help keeps to the screen. -/
theorem within_of_mem_drawHelp {screen : Area} (p : Placed) (hp : p ∈ drawHelp theme screen) :
    p.area.Within screen := by
  have harea := Layout.helpArea_within screen
  simp only [drawHelp, List.mem_cons, List.not_mem_nil, or_false] at hp
  rcases hp with rfl | rfl | rfl
  · exact harea
  · exact harea
  · exact (Layout.helpTextArea_within _).trans harea

variable {width height : Nat} {layout : Layout}

include ht in
/-- The widgets of a frame lie on the screen. -/
theorem exists_renderAll_frame (htiles : layout.Tiles (Area.ofSize width height))
    (main output tape : PaneText) :
    ∃ f, t.renderAll (t.blank width height)
      (v.frameWidgets t theme (Area.ofSize width height) layout main output tape) = .ok f := by
  refine ht.exists_renderAll fun p hp => ?_
  rw [ht.screen_blank]
  have hwithin := htiles.within
  simp only [List.mem_cons, List.not_mem_nil, or_false, forall_eq_or_imp, forall_eq] at hwithin
  obtain ⟨hprogram, houtput, htape, hstatus⟩ := hwithin
  simp only [frameWidgets, List.mem_append] at hp
  rcases hp with (((hp | hp) | hp) | hp) | hp
  · exact (ht.within_of_mem_widgets main _ p hp).trans hprogram
  · exact (ht.within_of_mem_widgets output _ p hp).trans houtput
  · exact (ht.within_of_mem_widgets tape _ p hp).trans htape
  · exact (within_of_mem_drawStatus v theme p hp).trans hstatus
  · split at hp
    · exact within_of_mem_drawHelp theme p hp
    · cases hp

include ht in
/-- A frame without help on top of it shows the lines of each of its panes. -/
theorem shows_of_renderAll_frame (htiles : layout.Tiles (Area.ofSize width height))
    (hhelp : v.showHelp = false) {main output tape : PaneText} {f : t.Frame}
    (h : t.renderAll (t.blank width height)
      (v.frameWidgets t theme (Area.ofSize width height) layout main output tape) = .ok f)
    (cursor : Option (Nat × Nat)) :
    ∀ q ∈ [(layout.program, main), (layout.output, output), (layout.tape, tape)],
      (∀ l ∈ q.2.lines, t.MonospacedLine l) →
        (t.screen (t.showCursor cursor f)).Shows (t.inside q.1) (Line.glyphAt? q.2.lines) := by
  let panes : List (Area × List Placed) :=
    [(layout.program, main.widgets t layout.program),
      (layout.output, output.widgets t layout.output),
      (layout.tape, tape.widgets t layout.tape),
      (layout.status, v.drawStatus theme layout.status)]
  have hpanes : v.frameWidgets t theme (Area.ofSize width height) layout main output tape =
      panes.flatMap Prod.snd := by
    simp [frameWidgets, panes, hhelp]
  have hwithin : ∀ q ∈ panes, ∀ p ∈ q.2, p.area.Within q.1 := by
    simp only [panes, List.mem_cons, List.not_mem_nil, or_false, forall_eq_or_imp, forall_eq]
    exact ⟨ht.within_of_mem_widgets main _, ht.within_of_mem_widgets output _,
      ht.within_of_mem_widgets tape _, within_of_mem_drawStatus v theme⟩
  have hapart : panes.Pairwise fun q r => q.1.Apart r.1 := List.pairwise_map.mp htiles.apart
  rw [hpanes] at h
  rintro ⟨a, text⟩ hq hmono i j hi hj
  rw [ht.cell_showCursor]
  have hmem : (a, text.widgets t a) ∈ panes ∧
      a ∈ [layout.program, layout.output, layout.tape, layout.status] := by
    simp only [List.mem_cons, List.not_mem_nil, or_false, Prod.mk.injEq] at hq
    rcases hq with ⟨rfl, rfl⟩ | ⟨rfl, rfl⟩ | ⟨rfl, rfl⟩ <;> simp [panes]
  exact ht.shows_of_mem hwithin hapart hmem.1 hmono (htiles.within a hmem.2) h i j hi hj

/-- A frame, once its panes are drawn. -/
theorem draw_eq (hlayout : Layout.ofArea t (Area.ofSize width height) = .ok layout) {u : Viewer}
    {main : PaneText} {cursor : Option (Nat × Nat)} {output : Drawn}
    (hmain : v.drawMain t theme layout.program = .ok (u, main, cursor))
    (houtput : u.drawOutput t theme layout.output = .ok output) {w : Viewer}
    (hw : w = { u with offsets := { u.offsets with
      output := output.offset
      tape := (u.drawTape t theme layout.tape).offset } }) {f : t.Frame}
    (hf : t.renderAll (t.blank width height)
      (w.frameWidgets t theme (Area.ofSize width height) layout main output.pane
        (u.drawTape t theme layout.tape).pane) = .ok f) :
    v.draw t theme width height = .ok (w, t.showCursor cursor f) := by
  subst hw
  simp only [draw, hlayout, hmain, houtput, bind, Except.bind, hf]
  rfl

include ht in
/-- **A frame is drawn**, whatever the size of the screen.  It leaves the viewer with its offsets
settled, and shows that viewer unless help covers it. -/
theorem exists_frame (h : ∀ e, v.editor = some e → e.row < e.lines.length)
    (hlayout : Layout.ofArea t (Area.ofSize width height) = .ok layout)
    (htiles : layout.Tiles (Area.ofSize width height)) :
    ∃ frame, v.draw t theme width height = .ok (v.settled t layout, frame) ∧
      (v.showHelp = false → (v.settled t layout).FrameOf theme t layout (t.screen frame)) := by
  obtain ⟨main, hmain, hprogram, heditor⟩ := v.exists_drawMain theme ht h layout.program
  -- the other panes do not look at what the first one has settled
  obtain ⟨output, houtput, hprintableO, hevents⟩ :=
    (v.mainSettled (t.inside layout.program)).exists_drawOutput theme ht layout.output
  obtain ⟨tape, htape, hprintableT, hcells⟩ :=
    (v.mainSettled (t.inside layout.program)).exists_drawTape theme ht layout.tape
  obtain ⟨f, hf⟩ :=
    (v.settled t layout).exists_renderAll_frame theme ht htiles main output tape
  have hdraw := v.draw_eq theme hlayout hmain houtput (w := v.settled t layout)
    (by rw [htape]; rfl) (by rw [htape]; exact hf)
  refine ⟨_, hdraw, fun hhelp => ?_⟩
  have hshows := (v.settled t layout).shows_of_renderAll_frame theme ht htiles hhelp hf
    (v.editor.map fun e => cursorPlace e (t.inside layout.program)
      (editorOffset e (t.inside layout.program)))
  simp only [List.mem_cons, List.not_mem_nil, or_false, forall_eq_or_imp, forall_eq] at hshows
  obtain ⟨hshowsP, hshowsO, hshowsT⟩ := hshows
  constructor
  · intro he hlength
    have he : v.editor = none := Option.map_eq_none_iff.mp he
    obtain ⟨hprintable, hglyph⟩ := hprogram he
    exact (hshowsP fun l hl => ht.monospacedLine_of_printable (hprintable l hl)).congr
      (hglyph hlength)
  · intro e he hmono
    obtain ⟨e', he', rfl⟩ := Option.map_eq_some_iff.mp he
    obtain ⟨hlines, hglyph⟩ := heditor e' he'
    exact (hshowsP (hlines hmono)).congr hglyph
  · intro hsize
    exact (hshowsO fun l hl => ht.monospacedLine_of_printable (hprintableO l hl)).congr
      (hevents hsize)
  · exact (hshowsT fun l hl => ht.monospacedLine_of_printable (hprintableT l hl)).congr hcells
  · obtain ⟨-, hcursor, -⟩ := ht.renderAll_keeps hf
    rw [ht.screen_blank] at hcursor
    rw [ht.cursor_showCursor hcursor]
    simp only [settled, scrolledTo, Option.map_map, Function.comp_def, editorScroll]
    cases v.editor <;> rfl

include ht in
/-- **A frame changes nothing** but how far the panes and the editor are scrolled. -/
theorem exists_draw (h : ∀ e, v.editor = some e → e.row < e.lines.length) (width height : Nat) :
    ∃ offsets scroll frame,
      v.draw t theme width height = .ok (v.scrolledTo offsets scroll, frame) := by
  obtain ⟨layout, hlayout, htiles⟩ := ht.exists_layout (Area.ofSize width height)
  obtain ⟨frame, hdraw, -⟩ := v.exists_frame theme ht h hlayout htiles
  exact ⟨_, _, frame, hdraw⟩

/-- What is drawn in the upper left corner only settles how far it is scrolled. -/
theorem exists_of_drawMain {area : Area} {u : Viewer} {main : PaneText}
    {cursor : Option (Nat × Nat)} (h : v.drawMain t theme area = .ok (u, main, cursor)) :
    ∃ program scroll, u = v.scrolledTo { v.offsets with program := program } scroll := by
  unfold drawMain at h
  cases he : v.editor with
  | none =>
      simp only [he] at h
      obtain ⟨drawn, -, h⟩ := map_eq_ok_iff.mp h
      cases h
      refine ⟨drawn.offset, 0, ?_⟩
      rw [scrolledTo, he]
      rfl
  | some e =>
      simp only [he] at h
      obtain ⟨⟨drawn, place⟩, -, h⟩ := map_eq_ok_iff.mp h
      cases h
      refine ⟨v.offsets.program, drawn.offset, ?_⟩
      rw [scrolledTo, he]
      rfl

include ht in
/-- **A frame that is drawn shows the tape**, whatever stands in the upper left corner. -/
theorem shows_tape_of_draw {u : Viewer} {frame : t.Frame} (hhelp : v.showHelp = false)
    (h : v.draw t theme width height = .ok (u, frame))
    (hlayout : Layout.ofArea t (Area.ofSize width height) = .ok layout)
    (htiles : layout.Tiles (Area.ofSize width height)) :
    (t.screen frame).Shows (t.inside layout.tape) fun j =>
      tapeGlyph? theme v.display v.session.state (t.inside layout.tape).width
        (u.offsets.tape + j) := by
  unfold draw at h
  obtain ⟨layout', hlayout', h⟩ := bind_eq_ok_iff.mp h
  cases hlayout.symm.trans hlayout'
  obtain ⟨⟨w, main, cursor⟩, hmain, h⟩ := bind_eq_ok_iff.mp h
  obtain ⟨output, -, h⟩ := bind_eq_ok_iff.mp h
  obtain ⟨f, hf, h⟩ := bind_eq_ok_iff.mp h
  cases h
  obtain ⟨program, scroll, rfl⟩ := v.exists_of_drawMain theme hmain
  obtain ⟨tape, htape, hprintable, hcells⟩ :=
    (v.scrolledTo { v.offsets with program := program } scroll).exists_drawTape theme ht layout.tape
  rw [htape] at hf
  have hshows := shows_of_renderAll_frame _ theme ht htiles (by exact hhelp) hf cursor
    (layout.tape, tape) (.tail _ (.tail _ (.head _)))
    fun l hl => ht.monospacedLine_of_printable (hprintable l hl)
  simp only [htape]
  exact hshows.congr hcells

end Viewer

end TapeMachine
