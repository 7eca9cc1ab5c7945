/-
**The cursor and the lines of the editor.**

The editor remembers the first line that it shows, and nothing keeps that number up to date.  Keys
move the cursor, and break, join and remove lines above it and below it, while the number stays what
it was; the next frame may be on a smaller screen than the last.  So when a frame begins, the cursor
can be anywhere around the lines that were shown, and these may not be there any more.

What saves the frame is that it settles the number by the cursor before it takes anything from the
lines, and that the cursor is in a line after every key.  Neither of the two looks at what happened
between frames, which is why no invariant about the first line is needed, for any interleaving of
keys, of the passing of time and of frames.

A row is told here as a list of cells, and the cursor by the row and the column of the area that it
stands in.  What a row shows is only said of lines whose characters take one cell each; where the
cursor stands does not depend on that.

Main definitions:

* `TapeMachine.Screen.rowIn` — the cells of a row of an area;
* `TapeMachine.Screen.ShowsText` — an area shows lines of text, from a line on;
* `TapeMachine.Screen.CursorAt` — the cursor stands where the area shows a place of the text.

Main results:

* `TapeMachine.map_range_getElem?` — a row is a line that is cut off or filled up;
* `TapeMachine.Screen.Shows.showsText` — **what the editor shows**;
* `TapeMachine.Viewer.editorOffset_le`, `TapeMachine.Viewer.lt_editorOffset_add` — the line of the
  cursor is in view;
* `TapeMachine.Viewer.cursor_stays_in_view` — what that means for every editor that can come about.
-/

import TapeMachine.Proofs.Interaction
import TapeMachine.Screen.Standard

set_option relaxedAutoImplicit false
set_option autoImplicit false

namespace TapeMachine

/-- What a function makes of the first `n` places of a list: of those that there are, and of those
that there are not. -/
theorem map_range_getElem? {α β : Type} (l : List α) (f : α → β) (default : β) (n : Nat) :
    ((List.range n).map fun i => (l[i]?.map f).getD default) =
      (l.take n).map f ++ List.replicate (n - l.length) default := by
  induction n with
  | zero => simp
  | succ n ih =>
      rw [List.range_succ, List.map_append, ih, List.take_add_one]
      rcases Nat.lt_or_ge n l.length with h | h
      · have hfilled : n - l.length = 0 := by omega
        have hfilled' : n + 1 - l.length = 0 := by omega
        rw [hfilled, hfilled', List.getElem?_eq_getElem h, List.map_append]
        simp only [List.replicate_zero, List.append_nil, List.map_cons, List.map_nil,
          List.getElem?_eq_getElem h, Option.map_some, Option.getD_some, Option.toList_some]
      · have hmore : n + 1 - l.length = n - l.length + 1 := by omega
        simp [hmore, List.getElem?_eq_none h, List.replicate_succ']

namespace Screen

/-- A cell that shows a character, and asks for nothing else. -/
def Cell.ofChar (c : Char) : Cell := { blank with symbol := [c] }

/-- The cells of a row of an area. -/
def rowIn (s : Screen) (a : Area) (y : Nat) : List Cell :=
  (List.range a.width).map fun x => s.cell (a.x + x) (a.y + y)

/-- An area shows lines of text, from the line `first` on: each row the first characters of its
line, as many as the area is wide, and blanks behind them. -/
structure ShowsText (s : Screen) (a : Area) (lines : List (List Char)) (first : Nat) : Prop where
  /-- A row shows its line. -/
  line : ∀ k < a.height, ∀ text, lines[first + k]? = some text →
    s.rowIn a k =
      (text.take a.width).map Cell.ofChar ++ List.replicate (a.width - text.length) Cell.blank
  /-- A row behind the last line shows nothing. -/
  blank : ∀ k < a.height, lines.length ≤ first + k →
    s.rowIn a k = List.replicate a.width Cell.blank

/-- The cursor stands in an area that shows lines from the line `first` on, in the row of the given
line, and at the given column or, if the area is not that wide, at the last. -/
def CursorAt (s : Screen) (a : Area) (first line column : Nat) : Prop :=
  ∃ x y, s.cursor = some (a.x + x, a.y + y) ∧ x < a.width ∧ y < a.height ∧ first + y = line ∧
    (column < a.width → x = column) ∧ (a.width ≤ column → x + 1 = a.width)

variable {s : Screen} {a : Area} {first : Nat}

/-- A row of an area that shows the lines of an editor. -/
theorem Shows.rowIn_eq {e : Editor}
    (h : s.Shows a fun j => Viewer.editorGlyph? e (first + j)) {k : Nat} (hk : k < a.height) :
    s.rowIn a k = (List.range a.width).map fun x =>
      ((e.lines[first + k]?.getD [])[x]?.map Cell.ofChar).getD Cell.blank := by
  refine List.map_congr_left fun x hx => ?_
  rw [h x k (List.mem_range.mp hx) hk]
  dsimp only
  rw [Viewer.editorGlyph?]
  cases e.lines[first + k]? with
  | none => rfl
  | some text =>
      rw [Option.bind_some, Option.getD_some, glyphs, List.getElem?_map]
      cases text[x]? <;> rfl

/-- **What the editor shows.** -/
theorem Shows.showsText {e : Editor}
    (h : s.Shows a fun j => Viewer.editorGlyph? e (first + j)) : s.ShowsText a e.lines first := by
  constructor
  · intro k hk text htext
    rw [h.rowIn_eq hk, htext, Option.getD_some, map_range_getElem?]
  · intro k hk hlength
    rw [h.rowIn_eq hk, List.getElem?_eq_none hlength, Option.getD_none, map_range_getElem?]
    simp

end Screen

/-- The inside of the program pane is on the screen, if it has a cell at all. -/
theorem Layout.Tiles.inside_program_le {t : Toolkit} (ht : t.Lawful) {layout : Layout}
    {width height : Nat} (h : layout.Tiles (Area.ofSize width height))
    (hwidth : 0 < (t.inside layout.program).width)
    (hheight : 0 < (t.inside layout.program).height) :
    (t.inside layout.program).x + (t.inside layout.program).width ≤ width ∧
      (t.inside layout.program).y + (t.inside layout.program).height ≤ height := by
  have hwithin := (ht.inside_within layout.program).trans (h.within _ (.head _))
  -- the last cell of the area is on the screen
  have hlast := hwithin _ _ ((t.inside layout.program).contains_add
    (Nat.sub_one_lt_of_lt hwidth) (Nat.sub_one_lt_of_lt hheight))
  rw [Area.contains_ofSize_iff] at hlast
  omega

namespace Viewer

variable {e : Editor} {a : Area}

/-! ### The line of the cursor -/

/-- **The line of the cursor is not above those that are shown.** -/
theorem editorOffset_le (e : Editor) (a : Area) : editorOffset e a ≤ e.row :=
  bringIntoView_le e.scroll e.row a.viewHeight

/-- **The line of the cursor is not below those that are shown**, if there is room for any. -/
theorem lt_editorOffset_add (e : Editor) (h : 0 < a.height) :
    e.row < editorOffset e a + a.height := by
  have hlt := lt_bringIntoView_add e.scroll e.row a.viewHeight
  have hview : a.viewHeight = a.height := Nat.max_eq_left h
  rw [hview, Nat.max_eq_left h] at hlt
  rwa [editorOffset, hview]

/-- Where the cursor stands when its line is in view. -/
theorem cursorAt_of_cursorPlace {s : Screen} {first : Nat}
    (hs : s.cursor = some (cursorPlace e a first)) (hwidth : 0 < a.width) (hle : first ≤ e.row)
    (hlt : e.row < first + a.height) : s.CursorAt a first e.row e.column := by
  refine ⟨min e.column (a.width - 1), e.row - first, hs, ?_, ?_, ?_, ?_, ?_⟩
  · omega
  · omega
  · omega
  · intro hcolumn
    omega
  · intro hcolumn
    omega

/-! ### Every editor -/

/-- **The cursor stays in view.**  Whatever keys were pressed, however time passed and of whatever
sizes frames were drawn since a session was opened, if the editor is open then a frame leaves it
with the line of its cursor among those that it shows.  The cursor stands in the row of its line,
which is a line of the text, at its column or at the last one that there is.  When every character
of the text takes one cell, the frame shows these lines, each in its row and as far as there is
room, and nothing below the last line of the text. -/
theorem cursor_stays_in_view {t : Toolkit} (ht : t.Lawful) (text source : String)
    (filename : Option String) (m : Machine) (d : Delays) (ops : List Operation) :
    ∃ v, ops.foldlM (perform t) (ofSession (Session.load text m d) source filename) = .ok v ∧
      ∀ e, v.editor = some e → v.showHelp = false → ∀ (theme : Theme) (width height : Nat),
        ∃ layout, Layout.ofArea t (Area.ofSize width height) = .ok layout ∧
          let a := t.inside layout.program
          0 < a.width → 0 < a.height →
            (a.x + a.width ≤ width ∧ a.y + a.height ≤ height) ∧
            ∃ u frame first, v.draw t theme width height = .ok (u, frame) ∧
              u.editor = some { e with scroll := first } ∧
              first ≤ e.row ∧ e.row < first + a.height ∧ e.row < e.lines.length ∧
              (t.screen frame).CursorAt a first e.row e.column ∧
              ((∀ l ∈ e.lines, t.Monospaced l) → (t.screen frame).ShowsText a e.lines first) := by
  obtain ⟨v, text', hv, hsound⟩ := (sound_ofSession text source filename m d).exists_reached ht ops
  have hrow : ∀ e, v.editor = some e → e.row < e.lines.length := fun _ => hsound.row_lt
  refine ⟨v, hv, ?_⟩
  intro e he hhelp theme width height
  obtain ⟨layout, hlayout, htiles⟩ := ht.exists_layout (Area.ofSize width height)
  refine ⟨layout, hlayout, ?_⟩
  intro a hwidth hheight
  obtain ⟨frame, hdraw, hframe⟩ := v.exists_frame theme ht hrow hlayout htiles
  have hframe := hframe hhelp
  have hsettled : (v.settled t layout).editor = some { e with scroll := editorOffset e a } := by
    simp only [settled, scrolledTo, editorScroll, he, Option.map_some, Option.getD_some, a]
  have hle := editorOffset_le e a
  have hlt := lt_editorOffset_add e hheight
  have hcursor := hframe.cursor
  rw [hsettled, Option.map_some] at hcursor
  refine ⟨htiles.inside_program_le ht hwidth hheight, _, frame, _, hdraw, hsettled, hle, hlt,
    hrow e he, cursorAt_of_cursorPlace hcursor hwidth hle hlt, fun hmono => ?_⟩
  exact (hframe.editor _ hsettled hmono).showsText

/-- A pane of one cell shows the line that the cursor went to. -/
theorem one_cell_shows_the_line_of_the_cursor :
    let ops : List Operation := [.press ⟨.char 'e', .none⟩ 0, .press ⟨.down, .none⟩ 0]
    ∃ v u frame,
      ops.foldlM (perform Toolkit.standard) (ofSession (Session.load "+\n-" Machine.standard
        Delays.standard) "+\n-" none) = .ok v ∧
      v.draw Toolkit.standard Theme.standard 4 8 = .ok (u, frame) ∧
      (Toolkit.standard.screen frame).rowIn ⟨1, 1, 1, 1⟩ 0 = [Screen.Cell.ofChar '-'] ∧
      (Toolkit.standard.screen frame).cursor = some (1, 1) := by
  intro ops
  obtain ⟨v, hv, hview⟩ := cursor_stays_in_view Toolkit.lawful_standard "+\n-" "+\n-" none
    Machine.standard Delays.standard ops
  have hreached : (ops.foldlM (perform Toolkit.standard) (ofSession (Session.load "+\n-"
      Machine.standard Delays.standard) "+\n-" none)).map (fun v => (v.editor, v.showHelp)) =
        .ok (some ⟨[['+'], ['-']], 1, 0, 0⟩, false) := by
    cbv
  rw [hv] at hreached
  obtain ⟨he, hhelp⟩ := Prod.mk.inj (Except.ok.inj hreached)
  obtain ⟨layout, hlayout, hshown⟩ := hview _ he hhelp Theme.standard 4 8
  have hareas : Layout.ofArea Toolkit.standard (Area.ofSize 4 8) =
      .ok ⟨⟨0, 0, 3, 3⟩, ⟨0, 3, 3, 3⟩, ⟨3, 0, 1, 6⟩, ⟨0, 6, 4, 2⟩⟩ := by rfl
  cases hlayout.symm.trans hareas
  obtain ⟨-, u, frame, first, hdraw, -, hle, hlt, -, ⟨x, y, hcursor, hx, hy, -⟩, htext⟩ :=
    hshown (by decide) (by decide)
  have hprintable : ∀ l ∈ [['+'], ['-']], Text.Printable l := by decide
  have htext := htext fun l hl =>
    Toolkit.lawful_standard.monospaced_of_printable (hprintable l hl)
  have hinside : Toolkit.standard.inside ⟨0, 0, 3, 3⟩ = ⟨1, 1, 1, 1⟩ := by rfl
  rw [hinside] at hcursor hx hy hlt htext
  have hfirst : first = 1 := by
    have hlt : 1 < first + 1 := hlt
    have hle : first ≤ 1 := hle
    omega
  obtain ⟨rfl, rfl⟩ : x = 0 ∧ y = 0 := ⟨Nat.lt_one_iff.mp hx, Nat.lt_one_iff.mp hy⟩
  refine ⟨v, u, frame, hv, hdraw, ?_, hcursor⟩
  rw [htext.line 0 (by decide) ['-'] (by rw [hfirst]; rfl)]
  rfl

end Viewer

end TapeMachine
