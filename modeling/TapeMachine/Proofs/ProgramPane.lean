/-
**The places of the instructions.**

The program pane breaks a program into rows of as many instructions as it is wide, and shows some of
the rows.  Which instruction stands where is division with remainder, and it could go wrong at every
edge: the last row may be short, a pane of odd width has a column that no instruction begins in, a
pane of one column still shows one instruction in a row, and a pane may be scrolled so far that it
shows less than it has room for.

Nothing of this is argued edge by edge.  A row reads as the piece of the program that the row stands
for, and pieces of one length, each taken where the one before it ends, put together are a longer
piece.  This is used twice: the rows of a pane make up what the pane shows, and pages that are each
as long as the pane make up the program.

Main definitions:

* `TapeMachine.Screen.spelled` — what an area of the screen spells;
* `TapeMachine.Screen.ShowsInstructions` — an area shows the instructions of some rows in their
  places, and nothing else;
* `TapeMachine.Viewer.pages`, `TapeMachine.Viewer.turnedTo` — the pages of a program, and a viewer
  that is scrolled to a row and stays there.

Main results:

* `TapeMachine.flatMap_range_slice` — **pieces of a list** put together;
* `TapeMachine.Viewer.spelled_row` — a row spells its piece of the program;
* `TapeMachine.Screen.Shows.showsInstructions`, `TapeMachine.Screen.Shows.spelled_eq` — where the
  instructions are, and what they spell;
* `TapeMachine.Viewer.exists_draw_program` — what a frame of any size shows of a program;
* `TapeMachine.Viewer.flatMap_spelled_eq` — frames that follow each other spell the program;
* `TapeMachine.Viewer.program_pane_shows_the_program` — what that means for every viewer.
-/

import TapeMachine.Proofs.Drawing
import TapeMachine.Screen.Standard

set_option relaxedAutoImplicit false
set_option autoImplicit false

namespace TapeMachine

/-! ### Pieces of a list -/

section Pieces

variable {α : Type}

/-- **Pieces of a list**, all of one length and each taken where the one before it ends, are a piece
of the list when they are put together. -/
theorem flatMap_range_slice (l : List α) (start size n : Nat) :
    ((List.range n).flatMap fun k => (l.drop (start + k * size)).take size) =
      (l.drop start).take (n * size) := by
  induction n with
  | zero => simp
  | succ n ih =>
      rw [List.range_succ, List.flatMap_append, ih, Nat.succ_mul, List.take_add, List.drop_drop]
      simp

/-- What stands at every other place, from the first one on. -/
theorem filterMap_range_even (f : Nat → Option α) (n : Nat) :
    ((List.range n).filterMap fun i => if i % 2 = 0 then f (i / 2) else none) =
      (List.range ((n + 1) / 2)).filterMap f := by
  induction n with
  | zero => rfl
  | succ n ih =>
      rw [List.range_succ, List.filterMap_append, ih]
      rcases Nat.mod_two_eq_zero_or_one n with h | h
      · have hhalf : (n + 1 + 1) / 2 = n / 2 + 1 := by omega
        have hsame : (n + 1) / 2 = n / 2 := by omega
        rw [hhalf, hsame, List.range_succ, List.filterMap_append]
        simp only [List.filterMap_cons, h, if_true, List.filterMap_nil]
      · have hsame : (n + 1 + 1) / 2 = (n + 1) / 2 := by omega
        simp [hsame, h]

/-- The first elements of a list behind a place. -/
theorem filterMap_range_getElem? (l : List α) (start bound n : Nat) :
    ((List.range n).filterMap fun i => if i < bound then l[start + i]? else none) =
      (l.drop start).take (min n bound) := by
  induction n with
  | zero => simp
  | succ n ih =>
      rw [List.range_succ, List.filterMap_append, ih]
      by_cases h : n < bound
      · rw [Nat.min_eq_left (Nat.le_of_lt h), Nat.min_eq_left h, List.take_add_one,
          List.getElem?_drop]
        simp only [List.filterMap_cons, if_pos h, List.filterMap_nil]
        cases l[start + n]? <;> rfl
      · have hbound : min (n + 1) bound = min n bound := by omega
        simp [hbound, h]

end Pieces

/-! ### What an area shows -/

theorem Instruction.toChar_ne_blank (i : Instruction) : i.toChar ≠ ' ' := by
  cases i <;> decide

namespace Screen

/-- The characters in an area, row by row, without the blanks. -/
def spelled (s : Screen) (a : Area) : List Char :=
  (List.range a.height).flatMap fun j =>
    ((List.range a.width).flatMap fun i => (s.cell (a.x + i) (a.y + j)).symbol).filter (· ≠ ' ')

/-- The cell that shows an instruction, which is marked when it is the current one. -/
def Cell.ofInstruction (theme : Theme) (isCurrent : Bool) (instruction : Instruction) : Cell :=
  ofGlyph? (some ⟨instruction.toChar,
    if isCurrent then Style.markOf (theme .programCurrent)
    else Style.ofForeground (theme .programToken)⟩)

/-- An area shows the instructions of a program from a row on.  Each of them stands in its place,
and everything else is blank. -/
structure ShowsInstructions (s : Screen) (a : Area) (theme : Theme) (p : Program)
    (current perRow first : Nat) : Prop where
  /-- An instruction whose row is shown stands in its place. -/
  cell : ∀ i instruction, p.get? i = some instruction → first ≤ i / perRow →
    i / perRow < first + a.height → 2 * (i % perRow) < a.width ∧
      s.cell (a.x + 2 * (i % perRow)) (a.y + (i / perRow - first)) =
        Cell.ofInstruction theme (i = current) instruction
  /-- Where no instruction stands there is nothing. -/
  blank : ∀ x < a.width, ∀ y < a.height,
    (∀ i < p.length, ¬(i / perRow = first + y ∧ 2 * (i % perRow) = x)) →
      s.cell (a.x + x) (a.y + y) = Cell.blank

/-- **An instruction is shown exactly when its row is.** -/
theorem ShowsInstructions.symbol_ne_iff {s : Screen} {a : Area} {theme : Theme} {p : Program}
    {current perRow first : Nat} (h : s.ShowsInstructions a theme p current perRow first)
    {x y : Nat} (hx : x < a.width) (hy : y < a.height) :
    (s.cell (a.x + x) (a.y + y)).symbol ≠ [' '] ↔
      ∃ i < p.length, first ≤ i / perRow ∧ i / perRow < first + a.height ∧
        2 * (i % perRow) = x ∧ i / perRow - first = y := by
  constructor
  · intro hsymbol
    by_contra hnone
    refine hsymbol (congrArg Cell.symbol (h.blank x hx y hy fun i hi ⟨hrow, hcolumn⟩ => ?_))
    exact hnone ⟨i, hi, by omega, by omega, hcolumn, by omega⟩
  · rintro ⟨i, hi, hle, hlt, rfl, rfl⟩
    rw [(h.cell i _ (Array.getElem?_eq_getElem hi) hle hlt).2]
    exact fun hsymbol => Instruction.toChar_ne_blank _ (List.singleton_inj.mp hsymbol)

end Screen

namespace Viewer

variable {theme : Theme} {p : Program} {current perRow line column : Nat}

/-- The glyph at a column that no instruction begins in, and behind the end of a program. -/
theorem ofGlyph?_programGlyph?_eq_blank
    (h : ∀ i < p.length, ¬(i / perRow = line ∧ 2 * (i % perRow) = column)) :
    Screen.Cell.ofGlyph? (programGlyph? theme p current perRow line column) =
      Screen.Cell.blank := by
  unfold programGlyph?
  split
  · next hcolumn =>
      cases hget : p.get? (line * perRow + column / 2) with
      | none => rfl
      | some instruction =>
          obtain ⟨hi, -⟩ := Array.getElem?_eq_some_iff.mp hget
          obtain ⟨hrow, hplace⟩ := div_mod_of_place line hcolumn
          have hodd : ¬column % 2 = 0 := fun heven => h _ hi ⟨hrow, by omega⟩
          rw [Option.map_some, if_neg hodd]
          rfl
  · rfl

/-- The character at a column of a row, if it is no blank. -/
theorem filter_symbol_programGlyph? :
    (Screen.Cell.ofGlyph? (programGlyph? theme p current perRow line column)).symbol.filter
        (· ≠ ' ') =
      (if column % 2 = 0 then
        if column / 2 < perRow then p.chars[line * perRow + column / 2]? else none
      else none).toList := by
  unfold programGlyph?
  rw [Program.chars, List.getElem?_map, ← Program.get?_eq_getElem?_toList]
  split
  · cases p.get? (line * perRow + column / 2) with
    | none =>
        rw [Option.map_none, Option.map_none, ite_self]
        rfl
    | some instruction =>
        split
        · simp [Screen.Cell.ofGlyph?, Glyph.draw?, Glyph.draw, Instruction.toChar_ne_blank]
        · rfl
  · rw [ite_self]
    rfl

/-- **A row spells the piece of the program that it stands for.** -/
theorem spelled_row {width : Nat} (hw : 0 < width) :
    (((List.range width).flatMap fun i => (Screen.Cell.ofGlyph?
        (programGlyph? theme p current (Viewer.perRow width) line i)).symbol).filter (· ≠ ' ')) =
      (p.chars.drop (line * Viewer.perRow width)).take (Viewer.perRow width) := by
  -- every other column is the first of two, and the last of them may be one too many
  have hmin : min ((width + 1) / 2) (Viewer.perRow width) = Viewer.perRow width := by
    unfold Viewer.perRow
    omega
  rw [List.filter_flatMap]
  simp only [filter_symbol_programGlyph?]
  rw [← List.filterMap_eq_flatMap_toList,
    filterMap_range_even fun m => if m < Viewer.perRow width then
      p.chars[line * Viewer.perRow width + m]? else none, filterMap_range_getElem?, hmin]

end Viewer

namespace Screen

variable {s : Screen} {a : Area} {theme : Theme} {p : Program} {current first : Nat}

/-- Where the instructions are in an area that shows a program. -/
theorem Shows.showsInstructions (ha : 0 < a.width)
    (h : s.Shows a fun j =>
      Viewer.programGlyph? theme p current (Viewer.perRow a.width) (first + j)) :
    s.ShowsInstructions a theme p current (Viewer.perRow a.width) first := by
  have hp := Viewer.perRow_pos a.width
  constructor
  · intro i instruction hi hle hlt
    have hcolumn := Viewer.two_mul_lt_width ha (Nat.mod_lt i hp)
    refine ⟨hcolumn, ?_⟩
    rw [h _ _ hcolumn (by omega)]
    dsimp only
    rw [Nat.add_sub_of_le hle, Viewer.programGlyph?_of_index theme hp, hi]
    simp only [Option.map_some, Cell.ofInstruction, decide_eq_true_eq]
  · intro x hx y hy hnone
    rw [h x y hx hy]
    exact Viewer.ofGlyph?_programGlyph?_eq_blank hnone

/-- **What an area spells** that shows a program: the rows from the first that is shown to the last
that there is room for. -/
theorem Shows.spelled_eq (ha : 0 < a.width)
    (h : s.Shows a fun j =>
      Viewer.programGlyph? theme p current (Viewer.perRow a.width) (first + j)) :
    s.spelled a = (p.chars.drop (first * Viewer.perRow a.width)).take
      (a.height * Viewer.perRow a.width) := by
  rw [spelled, ← flatMap_range_slice]
  refine List.flatMap_congr fun j hj => ?_
  have hrow : (List.range a.width).flatMap (fun i => (s.cell (a.x + i) (a.y + j)).symbol) =
      (List.range a.width).flatMap fun i => (Cell.ofGlyph?
        (Viewer.programGlyph? theme p current (Viewer.perRow a.width) (first + j) i)).symbol :=
    List.flatMap_congr fun i hi => by
      rw [h i j (List.mem_range.mp hi) (List.mem_range.mp hj)]
  rw [hrow, Viewer.spelled_row ha, Nat.add_mul]

end Screen

namespace Viewer

variable {v : Viewer}

/-- Neither the editor nor help covers the program pane. -/
def Uncovered (v : Viewer) : Prop := v.editor = none ∧ v.showHelp = false

/-- The viewer scrolled to a row of the program, where it stays. -/
def turnedTo (v : Viewer) (row : Nat) : Viewer :=
  { v with follow := false, offsets := { v.offsets with program := row } }

/-! ### A frame -/

/-- **What a frame shows of a program**, if the pane has a cell to show it in. -/
theorem exists_draw_program {t : Toolkit} (ht : t.Lawful) (hv : v.Uncovered)
    (hlength : 0 < v.session.program.length) (theme : Theme) {width height : Nat} {layout : Layout}
    (hlayout : Layout.ofArea t (Area.ofSize width height) = .ok layout)
    (hwidth : 0 < (t.inside layout.program).width) :
    let a := t.inside layout.program
    ∃ frame, v.draw t theme width height = .ok (v.settled t layout, frame) ∧
      (t.screen frame).ShowsInstructions a theme v.session.program v.session.state.position
        (perRow a.width) (v.settled t layout).offsets.program ∧
      (t.screen frame).spelled a =
        (v.session.program.chars.drop
          ((v.settled t layout).offsets.program * perRow a.width)).take
            (a.height * perRow a.width) := by
  intro a
  have hrow : ∀ e, v.editor = some e → e.row < e.lines.length := by
    intro e he
    cases hv.1.symm.trans he
  obtain ⟨layout', hlayout', htiles⟩ := ht.exists_layout (Area.ofSize width height)
  cases hlayout.symm.trans hlayout'
  obtain ⟨frame, hdraw, hframe⟩ := v.exists_frame theme ht hrow hlayout htiles
  have hshows := (hframe hv.2).program (Option.map_eq_none_iff.mpr hv.1) hlength
  exact ⟨frame, hdraw, hshows.showsInstructions hwidth, hshows.spelled_eq hwidth⟩

/-! ### Pages -/

/-- The pages of a program, each of them as many rows as an area is high. -/
def pages (length : Nat) (a : Area) : Nat :=
  programRows (programRows length (perRow a.width)) a.height

theorem lt_pages_iff {length k : Nat} {a : Area} (ha : 0 < a.height) :
    k < pages length a ↔ k * a.height < programRows length (perRow a.width) :=
  lt_programRows_iff ha

/-- The pages have room for the whole program. -/
theorem le_pages_mul {length : Nat} {a : Area} (ha : 0 < a.height) :
    length ≤ pages length a * (a.height * perRow a.width) := by
  have hrows : programRows length (perRow a.width) ≤ pages length a * a.height := by
    rw [← Nat.not_lt, ← lt_pages_iff ha]
    exact Nat.lt_irrefl _
  have hlength : length ≤ programRows length (perRow a.width) * perRow a.width := by
    rw [← Nat.not_lt, ← lt_programRows_iff (perRow_pos _)]
    exact Nat.lt_irrefl _
  rw [← Nat.mul_assoc]
  exact Nat.le_trans hlength (Nat.mul_le_mul_right _ hrows)

/-- **Frames that follow each other spell the program.** -/
theorem flatMap_spelled_eq {p : Program} {a : Area} (ha : 0 < a.height) {s : Nat → Screen}
    (h : ∀ k < pages p.length a, (s k).spelled a =
      (p.chars.drop (k * a.height * perRow a.width)).take (a.height * perRow a.width)) :
    ((List.range (pages p.length a)).flatMap fun k => (s k).spelled a) = p.chars := by
  have hpages := flatMap_range_slice p.chars 0 (a.height * perRow a.width) (pages p.length a)
  have hlength : p.chars.length = p.length := by
    rw [Program.chars, List.length_map, Program.length_toList]
  rw [List.drop_zero, List.take_of_length_le (hlength ▸ le_pages_mul ha)] at hpages
  rw [← hpages]
  refine List.flatMap_congr fun k hk => ?_
  rw [h k (List.mem_range.mp hk), Nat.zero_add, Nat.mul_assoc]

/-- A viewer that does not follow stays at any row that there is. -/
theorem programOffset_turnedTo {a : Area} {row : Nat}
    (h : row < programRows v.session.program.length (perRow a.width)) :
    (v.turnedTo row).programOffset a = row := by
  have hlength : 0 < v.session.program.length :=
    Nat.zero_lt_of_lt ((lt_programRows_iff (perRow_pos _)).mp h)
  rw [programOffset_eq (v := v.turnedTo row) hlength]
  exact Nat.min_eq_left (Nat.le_sub_one_of_lt h)

/-! ### Every viewer -/

/-- **The program pane shows the program.**  A frame of any size, drawn by any lawful toolkit, shows
each instruction of the rows that there is room for, from the row on that the pane is scrolled to:
in the row that the number of the instruction divided by the instructions in a row gives, and in the
column that the remainder gives.  It shows nothing else, and what it spells is that piece of the
program.  A viewer can be turned to every page, and pages in their order spell the program, from
whatever frames they are taken. -/
theorem program_pane_shows_the_program {t : Toolkit} (ht : t.Lawful) (hv : v.Uncovered)
    (hlength : 0 < v.session.program.length) (theme : Theme) {width height : Nat} {layout : Layout}
    (hlayout : Layout.ofArea t (Area.ofSize width height) = .ok layout)
    (hwidth : 0 < (t.inside layout.program).width)
    (hheight : 0 < (t.inside layout.program).height) :
    let a := t.inside layout.program
    let p := v.session.program
    let r := perRow a.width
    (∃ u frame, v.draw t theme width height = .ok (u, frame) ∧
      (t.screen frame).ShowsInstructions a theme p v.session.state.position r u.offsets.program ∧
      (∀ x < a.width, ∀ y < a.height, ((t.screen frame).cell (a.x + x) (a.y + y)).symbol ≠ [' '] ↔
        ∃ i < p.length, u.offsets.program ≤ i / r ∧ i / r < u.offsets.program + a.height ∧
          2 * (i % r) = x ∧ i / r - u.offsets.program = y) ∧
      (t.screen frame).spelled a = (p.chars.drop (u.offsets.program * r)).take (a.height * r)) ∧
    (∀ k < pages p.length a, ∃ u frame,
      (v.turnedTo (k * a.height)).draw t theme width height = .ok (u, frame) ∧
        u.offsets.program = k * a.height) ∧
    ∀ frames : Nat → t.Frame,
      (∀ k < pages p.length a, ∃ (theme : Theme) (w u : Viewer), w.Uncovered ∧
        w.session.program = p ∧ w.draw t theme width height = .ok (u, frames k) ∧
          u.offsets.program = k * a.height) →
      ((List.range (pages p.length a)).flatMap fun k => (t.screen (frames k)).spelled a) =
        p.chars := by
  intro a p r
  refine ⟨?_, fun k hk => ?_, fun frames hframes => ?_⟩
  · obtain ⟨frame, hdraw, hshows, hspelled⟩ :=
      exists_draw_program ht hv hlength theme hlayout hwidth
    exact ⟨_, frame, hdraw, hshows, fun x hx y hy => hshows.symbol_ne_iff hx hy, hspelled⟩
  · obtain ⟨frame, hdraw, -, -⟩ :=
      exists_draw_program (v := v.turnedTo (k * a.height)) ht hv hlength theme hlayout hwidth
    refine ⟨_, frame, hdraw, ?_⟩
    have heditor : (v.turnedTo (k * a.height)).editor = none := hv.1
    rw [offsets_program_settled heditor]
    exact programOffset_turnedTo ((lt_pages_iff hheight).mp hk)
  · refine flatMap_spelled_eq (s := fun k => t.screen (frames k)) hheight fun k hk => ?_
    obtain ⟨theme, w, u, hw, hprogram, hdraw, hoffset⟩ := hframes k hk
    obtain ⟨frame, hdraw', -, hspelled⟩ :=
      exists_draw_program ht hw (hprogram ▸ hlength) theme hlayout hwidth
    cases hdraw.symm.trans hdraw'
    rw [hspelled, hprogram, hoffset]

/-- Where there is room for one instruction, two pages spell a program of two. -/
theorem two_pages_spell_two_instructions :
    let v := ofSession (Session.load "+." Machine.standard Delays.standard) "+." none
    ∃ layout u₀ u₁ frame₀ frame₁,
      Layout.ofArea Toolkit.standard (Area.ofSize 4 8) = .ok layout ∧
      (v.turnedTo 0).draw Toolkit.standard Theme.standard 4 8 = .ok (u₀, frame₀) ∧
      (v.turnedTo 1).draw Toolkit.standard Theme.standard 4 8 = .ok (u₁, frame₁) ∧
      (Toolkit.standard.screen frame₀).spelled (Toolkit.standard.inside layout.program) ++
        (Toolkit.standard.screen frame₁).spelled (Toolkit.standard.inside layout.program) =
          ['+', '.'] := by
  intro v
  have hlayout : Layout.ofArea Toolkit.standard (Area.ofSize 4 8) =
      .ok ⟨⟨0, 0, 3, 3⟩, ⟨0, 3, 3, 3⟩, ⟨3, 0, 1, 6⟩, ⟨0, 6, 4, 2⟩⟩ := by rfl
  have hcount : pages v.session.program.length ⟨1, 1, 1, 1⟩ = 2 := by decide
  have hchars : v.session.program.chars = ['+', '.'] := by decide
  obtain ⟨-, hturned, hspelled⟩ := @program_pane_shows_the_program v Toolkit.standard
    Toolkit.lawful_standard ⟨rfl, rfl⟩ (by decide) Theme.standard 4 8 _ hlayout (by decide)
    (by decide)
  obtain ⟨u₀, frame₀, hdraw₀, hoffset₀⟩ := hturned 0 (by decide)
  obtain ⟨u₁, frame₁, hdraw₁, hoffset₁⟩ := hturned 1 (by decide)
  refine ⟨_, u₀, u₁, frame₀, frame₁, hlayout, hdraw₀, hdraw₁, ?_⟩
  have hpages := hspelled (fun k => if k = 0 then frame₀ else frame₁) fun k hk => by
    have hk : k = 0 ∨ k = 1 := by
      have : k < 2 := hcount ▸ hk
      omega
    rcases hk with rfl | rfl
    · exact ⟨Theme.standard, v.turnedTo 0, u₀, ⟨rfl, rfl⟩, rfl, hdraw₀, hoffset₀⟩
    · exact ⟨Theme.standard, v.turnedTo 1, u₁, ⟨rfl, rfl⟩, rfl, hdraw₁, hoffset₁⟩
  have hrange : List.range (pages v.session.program.length
      (Toolkit.standard.inside ⟨0, 0, 3, 3⟩)) = [0, 1] := by decide
  rw [hchars, hrange] at hpages
  simpa using hpages

end Viewer

end TapeMachine
