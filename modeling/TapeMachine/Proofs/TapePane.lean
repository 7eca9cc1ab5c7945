/-
**The lines of the tape pane.**

The tape pane puts cells and separators into one list and shows a piece of it, and the offset of the
pane counts lines and not cells.  So it takes some care to say which cell a row of the pane shows.
The listing has a closed form: every cell stands below as many separators as there are full groups
above it.  With that the pane is described from the outside.  Nothing is said of a list any more,
only which line each cell of the window has, what is written there, and that the rest is separators
and blanks.

The text of a cell is described from the outside as well, by columns that are filled up on the left
and by the value that the cell has on the tape.

Main definitions:

* `TapeMachine.Text.RightAligned` — a text at the right of a column that is as wide as it has to be;
* `TapeMachine.IsBits`, `TapeMachine.IsCellLine` — what is written for a value, and in the line of a
  cell;
* `TapeMachine.Screen.ListsTape` — an area shows the window over a tape from a line on.

Main results:

* `TapeMachine.isBits_cellBits` — the bits of a cell spell its value;
* `TapeMachine.State.Fits.exists_cell_of_mem_windowCells` — the window is on the tape;
* `TapeMachine.isCellLine_tapeLine` — what the line of a cell says;
* `TapeMachine.exists_standsOut_append_iff` — where a line stands out;
* `TapeMachine.Screen.Shows.listsTape` — **what the tape pane shows**;
* `TapeMachine.Viewer.tape_pane_lists_the_window` — what that means for every session that can come
  about, and every viewer of it.
-/

import TapeMachine.Proofs.InView
import TapeMachine.Screen.Standard

set_option relaxedAutoImplicit false
set_option autoImplicit false

namespace TapeMachine

/-! ### Columns -/

/-- A text stands at the right of a column of the given width, or takes more if it needs more. -/
def Text.RightAligned (width : Nat) (t column : List Char) : Prop :=
  ∃ n, column = List.replicate n ' ' ++ t ∧ column.length = max width t.length

theorem Text.rightAligned_padLeft (width : Nat) (t : List Char) :
    RightAligned width t (padLeft width t) :=
  ⟨width - t.length, rfl, length_padLeft width t⟩

open Text

/-- The number that binary digits spell. -/
def ofBits (digits : List Char) : Nat :=
  digits.foldl (fun n c => 2 * n + if c = '1' then 1 else 0) 0

/-- A column shows a value in eight binary digits, with a space in the middle. -/
def IsBits (value : UInt8) (column : List Char) : Prop :=
  ∃ high low, column = high ++ ' ' :: low ∧ high.length = 4 ∧ low.length = 4 ∧
    (∀ c ∈ high ++ low, c = '0' ∨ c = '1') ∧ ofBits (high ++ low) = value.toNat

/-- What is written for the value of a cell: its bits, or its character in four columns. -/
def IsValueText (value : UInt8) (column : List Char) : Display → Prop
  | .binary => IsBits value column
  | .ascii => RightAligned 4 (cellAscii value) column

/-- What is written in the line of a cell: its number, what is written for its value, and its value
as a number. -/
def IsCellLine (display : Display) (i : Nat) (value : UInt8) (line : List Char) : Prop :=
  ∃ index text number, RightAligned 5 (decimal i) index ∧ IsValueText value text display ∧
    RightAligned 3 (decimal value.toNat) number ∧
    line = index ++ ' ' :: (text ++ ' ' :: number)

/-- The column behind the number of a cell. -/
def valueColumn (i : Nat) : Nat := max 5 (decimal i).length + 1

/-- The columns that are taken by what is written for a value. -/
def Display.valueWidth : Display → Nat
  | binary => 9
  | ascii => 4

/-- One bit more: what the bits down to a weight spell. -/
theorem two_mul_div_add_mod (n weight : Nat) :
    2 * (n / (2 * weight)) + n / weight % 2 = n / weight := by
  rw [Nat.mul_comm 2 weight, ← Nat.div_div_eq_div_mul]
  exact Nat.div_add_mod (n / weight) 2

/-- **The bits of a cell spell its value.** -/
theorem isBits_cellBits (value : UInt8) : IsBits value (cellBits value) := by
  have hbit : ∀ weight, (if bit value.toNat weight = '1' then 1 else 0) =
      value.toNat / weight % 2 := by
    intro weight
    unfold bit
    rcases Nat.mod_two_eq_zero_or_one (value.toNat / weight) with h | h <;> simp [h]
  refine ⟨[128, 64, 32, 16].map (bit value.toNat), [8, 4, 2, 1].map (bit value.toNat), rfl, rfl,
    rfl, ?_, ?_⟩
  · rw [← List.map_append]
    intro c hc
    obtain ⟨weight, -, rfl⟩ := List.mem_map.mp hc
    unfold bit
    split
    · exact .inr rfl
    · exact .inl rfl
  · have htop : 2 * 0 + value.toNat / 128 % 2 = value.toNat / 128 := by
      rw [Nat.mul_zero, Nat.zero_add]
      exact Nat.mod_eq_of_lt (Nat.div_lt_of_lt_mul value.toNat_lt)
    simp only [ofBits, List.map_cons, List.map_nil, List.cons_append, List.nil_append,
      List.foldl_cons, List.foldl_nil, hbit, htop]
    -- each weight is half of the one before it
    rw [two_mul_div_add_mod _ 64, two_mul_div_add_mod _ 32, two_mul_div_add_mod _ 16,
      two_mul_div_add_mod _ 8, two_mul_div_add_mod _ 4, two_mul_div_add_mod _ 2,
      two_mul_div_add_mod _ 1, Nat.div_one]

theorem isValueText_valueText (display : Display) (value : UInt8) :
    IsValueText value (Viewer.valueText display value) display := by
  cases display with
  | binary => exact isBits_cellBits value
  | ascii => exact rightAligned_padLeft 4 _

theorem length_cellAscii_le (value : UInt8) : (cellAscii value).length ≤ 4 := by
  unfold cellAscii hexEscape
  dsimp only
  repeat' split
  all_goals simp

theorem length_valueText (display : Display) (value : UInt8) :
    (Viewer.valueText display value).length = display.valueWidth := by
  cases display with
  | binary => exact length_cellBits value
  | ascii =>
      rw [Viewer.valueText, length_padLeft]
      exact Nat.max_eq_left (length_cellAscii_le value)

/-! ### The line of a cell -/

@[simp] theorem map_symbol_glyphs (style : Style) (t : List Char) :
    (glyphs style t).map Glyph.symbol = t := by
  simp [glyphs, Function.comp_def]

theorem symbol_ofGlyph? (g? : Option Glyph) :
    (Screen.Cell.ofGlyph? g?).symbol = [(g?.map Glyph.symbol).getD ' '] := by
  cases g? <;> rfl

/-- **The cells of the window are on the tape.** -/
theorem State.Fits.exists_cell_of_mem_windowCells {m : Machine} {s : State} (hs : s.Fits m)
    {i : Nat} (hi : i ∈ s.windowCells) : ∃ value, s.tape.get? i = some value := by
  refine Option.ne_none_iff_exists'.mp fun hnone => ?_
  rw [Tape.get?_eq_none_iff] at hnone
  have hlast := ((State.mem_windowCells_iff s i).mp hi).2
  have hpointer := hs.pointer_lt
  rw [← hs.capacity] at hpointer
  dsimp only [State.window] at hlast
  omega

/-- **What the line of a cell says.** -/
theorem isCellLine_tapeLine (theme : Theme) (display : Display) {s : State} (width : Nat) {i : Nat}
    {value : UInt8} (h : s.tape.get? i = some value) :
    IsCellLine display i value
      ((Viewer.tapeLine theme display s width (.cell i)).glyphs.map Glyph.symbol) := by
  refine ⟨_, _, _, rightAligned_padLeft 5 _, isValueText_valueText display value,
    rightAligned_padLeft 3 _, ?_⟩
  simp [Viewer.glyphs_cellLine, h]

/-- A glyph of a text stands out when the style of the text does. -/
theorem exists_standsOut_glyphs_iff (style : Style) (t : List Char) (x : Nat) :
    (∃ g, (glyphs style t)[x]? = some g ∧ g.style.StandsOut) ↔ x < t.length ∧ style.StandsOut := by
  constructor
  · rintro ⟨g, hg, hout⟩
    rw [style_of_mem_glyphs (List.mem_of_getElem? hg)] at hout
    have hx := (List.getElem?_eq_some_iff.mp hg).choose
    rw [length_glyphs] at hx
    exact ⟨hx, hout⟩
  · rintro ⟨hx, hout⟩
    refine ⟨⟨t[x], style⟩, ?_, hout⟩
    rw [glyphs, List.getElem?_map, List.getElem?_eq_getElem hx, Option.map_some]

/-- **Where a line stands out** that has a mark between two margins. -/
theorem exists_standsOut_append_iff {margin mark : Style} (hmargin : ¬margin.StandsOut)
    (hmark : mark.StandsOut) (front text back : List Char) (x : Nat) :
    (∃ g, (glyphs margin front ++ glyphs mark text ++ glyphs margin back)[x]? = some g ∧
        g.style.StandsOut) ↔
      front.length ≤ x ∧ x < front.length + text.length := by
  rcases Nat.lt_or_ge x front.length with hfront | hfront
  · rw [List.append_assoc, List.getElem?_append_left (by rwa [length_glyphs]),
      exists_standsOut_glyphs_iff]
    exact iff_of_false (fun h => hmargin h.2) (by omega)
  · rw [List.append_assoc, List.getElem?_append_right (by rwa [length_glyphs]), length_glyphs]
    rcases Nat.lt_or_ge (x - front.length) text.length with htext | htext
    · rw [List.getElem?_append_left (by rwa [length_glyphs]), exists_standsOut_glyphs_iff]
      exact iff_of_true ⟨htext, hmark⟩ (by omega)
    · rw [List.getElem?_append_right (by rwa [length_glyphs]), exists_standsOut_glyphs_iff]
      exact iff_of_false (fun h => hmargin h.2) (by omega)

/-- The line of the current cell stands out where its value is written. -/
theorem exists_standsOut_tapeLine_iff (theme : Theme) (display : Display) (s : State)
    (width x : Nat) :
    (∃ g, (Viewer.tapeLine theme display s width (.cell s.pointer)).glyphs[x]? = some g ∧
        g.style.StandsOut) ↔
      valueColumn s.pointer ≤ x ∧ x < valueColumn s.pointer + display.valueWidth := by
  have hmark : (Viewer.valueStyle theme (decide (s.pointer = s.pointer))
      ((s.tape.get? s.pointer).getD 0)).StandsOut := by
    rw [decide_eq_true rfl]
    exact .inl rfl
  rw [Viewer.glyphs_cellLine,
    exists_standsOut_append_iff (Style.not_standsOut_ofForeground _) hmark, length_valueText,
    List.length_append, length_padLeft]
  rfl

/-! ### The pane -/

/-- An area shows the window over a tape from a line on.  A cell stands below as many separators as
there are full groups of cells above it. -/
structure Screen.ListsTape (screen : Screen) (a : Area) (display : Display) (s : State)
    (first : Nat) : Prop where
  /-- The line of a cell tells its number and its value, as far as the area is wide. -/
  cell : ∀ i ∈ s.windowCells, ∃ value text, s.tape.get? i = some value ∧
    IsCellLine display i value text ∧
    ∀ y < a.height, first + y = i + i / 8 → ∀ x < a.width,
      (screen.cell (a.x + x) (a.y + y)).symbol = [text[x]?.getD ' ']
  /-- A separator stands below the last cell of a group. -/
  separator : ∀ k, 8 * k + 7 ∈ s.windowCells → ∀ y < a.height, first + y = 9 * k + 8 →
    ∀ x < a.width, (screen.cell (a.x + x) (a.y + y)).symbol = ['─']
  /-- There is nothing else. -/
  blank : ∀ y < a.height, (∀ i ∈ s.windowCells, first + y ≠ i + i / 8) →
    (∀ k, 8 * k + 7 ∈ s.windowCells → first + y ≠ 9 * k + 8) →
      ∀ x < a.width, screen.cell (a.x + x) (a.y + y) = Cell.blank
  /-- The value of the current cell stands out, and nothing else does. -/
  standsOut_iff : ∀ y < a.height, ∀ x < a.width,
    (screen.cell (a.x + x) (a.y + y)).StandsOut ↔ first + y = s.pointer + s.pointer / 8 ∧
      valueColumn s.pointer ≤ x ∧ x < valueColumn s.pointer + display.valueWidth

/-- **What the tape pane shows.** -/
theorem Screen.Shows.listsTape {screen : Screen} {a : Area} {theme : Theme} {display : Display}
    {m : Machine} {s : State} {first : Nat} (hs : s.Fits m) (hlowest : s.lowest = 0)
    (h : screen.Shows a fun j =>
      Viewer.tapeGlyph? theme display s a.width (first + j)) :
    screen.ListsTape a display s first := by
  constructor
  · intro i hi
    obtain ⟨value, hvalue⟩ := hs.exists_cell_of_mem_windowCells hi
    refine ⟨value, _, hvalue, isCellLine_tapeLine theme display a.width hvalue, ?_⟩
    intro y hy hline x hx
    have hcell := (State.getElem?_listing_eq_cell_iff hlowest (first + y) i).mpr
      ⟨(State.mem_windowCells_iff_lt_length hlowest i).mp hi, hline⟩
    rw [h x y hx hy, symbol_ofGlyph?]
    dsimp only
    rw [Viewer.tapeGlyph?, hcell, Option.bind_some, List.getElem?_map]
  · intro k hk y hy hline x hx
    have hseparator := (State.getElem?_listing_eq_separator_iff hlowest (first + y)).mpr
      ⟨k, (State.mem_windowCells_iff_lt_length hlowest _).mp hk, hline⟩
    rw [h x y hx hy, symbol_ofGlyph?]
    dsimp only
    rw [Viewer.tapeGlyph?, hseparator, Option.bind_some, ← List.getElem?_map, Viewer.tapeLine,
      Line.glyphs_styled, map_symbol_glyphs, List.getElem?_replicate, if_pos hx, Option.getD_some]
  · intro y hy hcells hseparators x hx
    rw [h x y hx hy]
    dsimp only
    rw [Viewer.tapeGlyph?]
    cases hline : s.listing[first + y]? with
    | none => rfl
    | some l =>
        cases l with
        | cell i =>
            obtain ⟨hi, heq⟩ := (State.getElem?_listing_eq_cell_iff hlowest _ i).mp hline
            have hmem := (State.mem_windowCells_iff_lt_length hlowest i).mpr hi
            exact absurd heq (hcells i hmem)
        | separator =>
            obtain ⟨k, hk, heq⟩ := (State.getElem?_listing_eq_separator_iff hlowest _).mp hline
            have hmem := (State.mem_windowCells_iff_lt_length hlowest _).mpr hk
            exact absurd heq (hseparators k hmem)
  · intro y hy x hx
    -- only one line can stand out, so the columns have to be told of that line alone
    rw [h x y hx hy, Cell.standsOut_ofGlyph?_iff, ← hs.currentLine_eq hlowest]
    dsimp only
    constructor
    · rintro ⟨g, hg, hout⟩
      have hcurrent := Viewer.eq_of_tapeGlyph?_standsOut hs hlowest hg hout
      rw [hcurrent, Viewer.tapeGlyph?_current hs hlowest] at hg
      exact ⟨hcurrent, (exists_standsOut_tapeLine_iff theme display s a.width x).mp ⟨g, hg, hout⟩⟩
    · rintro ⟨hcurrent, hcolumn⟩
      rw [hcurrent, Viewer.tapeGlyph?_current hs hlowest]
      exact (exists_standsOut_tapeLine_iff theme display s a.width x).mpr hcolumn

namespace Viewer

/-- **The tape pane lists the window.**  Whatever was done to a session that was loaded, every
viewer of it whose frame is drawn without help on top, by whatever lawful toolkit, shows the cells
of the window from the line on that the pane is scrolled to, each in its line and with the value
that it has on the tape, the separators between groups of eight, and nothing else.  A frame of any
size is drawn, unless the editor is open with its cursor behind the last line. -/
theorem tape_pane_lists_the_window {t : Toolkit} (ht : t.Lawful) (source : String) (m : Machine)
    (d : Delays) (ops : List Session.Operation) :
    ∃ s, (Session.load source m d).performAll ops = .ok s ∧
      ∀ v : Viewer, v.session = s → ∀ (theme : Theme) (width height : Nat),
        ((∀ e, v.editor = some e → e.row < e.lines.length) →
          ∃ u frame, v.draw t theme width height = .ok (u, frame)) ∧
        ∀ u frame, v.showHelp = false → v.draw t theme width height = .ok (u, frame) →
          ∃ layout, Layout.ofArea t (Area.ofSize width height) = .ok layout ∧
            (t.screen frame).ListsTape (t.inside layout.tape) v.display s.state u.offsets.tape := by
  obtain ⟨s, hs, hreplays⟩ := Session.exists_performAll source m d ops
  refine ⟨s, hs, ?_⟩
  rintro v rfl theme width height
  obtain ⟨layout, hlayout, htiles⟩ := ht.exists_layout (Area.ofSize width height)
  constructor
  · intro hrow
    obtain ⟨frame, hdraw, -⟩ := v.exists_frame theme ht hrow hlayout htiles
    exact ⟨_, frame, hdraw⟩
  · intro u frame hhelp hdraw
    have hshows := v.shows_tape_of_draw theme ht hhelp hdraw hlayout htiles
    exact ⟨layout, hlayout, hshows.listsTape hreplays.valid.toFits
      (State.lowest_eq_zero hreplays.state)⟩

/-- After one step the first cell is shown with its value. -/
theorem window_after_one_step :
    ∃ s u frame layout,
      (Session.load "+" Machine.standard Delays.standard).performAll [.step] = .ok s ∧
      (ofSession s "+" none).draw Toolkit.standard Theme.standard 80 24 = .ok (u, frame) ∧
      Layout.ofArea Toolkit.standard (Area.ofSize 80 24) = .ok layout ∧
      (Toolkit.standard.screen frame).ListsTape (Toolkit.standard.inside layout.tape) .binary
        s.state u.offsets.tape := by
  obtain ⟨s, hs, hlists⟩ := tape_pane_lists_the_window Toolkit.lawful_standard "+"
    Machine.standard Delays.standard [.step]
  obtain ⟨hdrawn, hshown⟩ := hlists (ofSession s "+" none) rfl Theme.standard 80 24
  obtain ⟨u, frame, hdraw⟩ := hdrawn nofun
  obtain ⟨layout, hlayout, htape⟩ := hshown u frame rfl hdraw
  exact ⟨s, u, frame, layout, hs, hdraw, hlayout, htape⟩

end Viewer

end TapeMachine
