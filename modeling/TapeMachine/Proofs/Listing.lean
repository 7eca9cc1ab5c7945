/-
**The lines of the tape pane.**

The tape pane lists the cells of the window, and after every eighth cell a line that separates the
groups.  So a cell does not stand in the line of its own number: all cells behind a separator are
shifted down, each by as many lines as there are separators above it.

On the screen lines are counted and not cells, and the line of the current cell is found by going
through the listing.  This module says where it is without going through anything.  The tape of a
run is shown from its first cell on; then cell `i` stands in line `i + i / 8`, the separators are
the lines `9 * k + 8`, and there are no other lines.

Main definitions:

* `TapeMachine.TapeLine.ofPlace` — the line at a place of a listing without end.

Main results:

* `TapeMachine.State.listing_eq_map` — **the listing, in closed form**;
* `TapeMachine.State.getElem?_listing_eq_cell_iff`,
  `TapeMachine.State.getElem?_listing_eq_separator_iff` — where the cells and the separators are;
* `TapeMachine.State.Fits.currentLine_eq`,
  `TapeMachine.State.Fits.getElem?_listing_eq_current_iff` — the line of the current cell, and that
  no other line shows this cell.
-/

import TapeMachine.Proofs.Window
import TapeMachine.Viewer.Panes

set_option relaxedAutoImplicit false
set_option autoImplicit false

namespace TapeMachine

/-- The line at a place of a listing without end: of every nine lines the last is a separator. -/
def TapeLine.ofPlace (line : Nat) : TapeLine :=
  if line % 9 = 8 then .separator else .cell (line - line / 9)

namespace TapeLine

/-- The line of a cell is shifted by the separators above it. -/
theorem ofPlace_eq_cell_iff (line i : Nat) : ofPlace line = .cell i ↔ line = i + i / 8 := by
  unfold ofPlace
  split
  · next h =>
      refine iff_of_false (fun hcell => ?_) (by omega)
      cases hcell
  · rw [cell.injEq]
    omega

theorem ofPlace_eq_separator_iff (line : Nat) :
    ofPlace line = .separator ↔ ∃ k, line = 9 * k + 8 := by
  unfold ofPlace
  split
  · next h => exact iff_of_true rfl ⟨line / 9, by omega⟩
  · next h =>
      refine iff_of_false (fun hcell => ?_) ?_
      · cases hcell
      · rintro ⟨k, rfl⟩
        omega

end TapeLine

namespace State

variable {m : Machine} {s : State}

/-- The lines of the first cells of a tape. -/
theorem flatMap_range_eq_map (n : Nat) :
    ((List.range n).flatMap fun i =>
      if i % groupSize = groupSize - 1 then [.cell i, .separator] else [.cell i]) =
      (List.range (n + n / 8)).map TapeLine.ofPlace := by
  induction n with
  | zero => rfl
  | succ n ih =>
      have hcell : TapeLine.ofPlace (n + n / 8) = .cell n :=
        (TapeLine.ofPlace_eq_cell_iff _ _).mpr rfl
      rw [List.range_succ, List.flatMap_append, ih, List.flatMap_singleton]
      split
      · next hlast =>
          -- the cell ends a group, so two lines are added
          simp only [groupSize] at hlast
          have hseparator : TapeLine.ofPlace (n + n / 8 + 1) = .separator :=
            (TapeLine.ofPlace_eq_separator_iff _).mpr ⟨n / 8, by omega⟩
          have hcount : n + 1 + (n + 1) / 8 = n + n / 8 + 1 + 1 := by omega
          rw [hcount, List.range_succ, List.range_succ, List.map_append, List.map_append,
            List.append_assoc, List.map_singleton, List.map_singleton, hcell, hseparator]
          rfl
      · next hlast =>
          simp only [groupSize] at hlast
          have hcount : n + 1 + (n + 1) / 8 = n + n / 8 + 1 := by omega
          rw [hcount, List.range_succ, List.map_append, List.map_singleton, hcell]

/-- A window from the first cell on. -/
theorem windowCells_eq_range (h : s.lowest = 0) :
    s.windowCells = List.range s.windowCells.length := by
  have hfirst : s.window.1 = 0 := h
  simp only [windowCells, hfirst, Nat.sub_zero, Nat.zero_add, List.map_id', List.length_range]

theorem mem_windowCells_iff_lt_length (h : s.lowest = 0) (i : Nat) :
    i ∈ s.windowCells ↔ i < s.windowCells.length := by
  rw [windowCells_eq_range h, List.mem_range, List.length_range]

/-- **The listing, in closed form.** -/
theorem listing_eq_map (h : s.lowest = 0) :
    s.listing =
      (List.range (s.windowCells.length + s.windowCells.length / 8)).map TapeLine.ofPlace := by
  rw [listing, windowCells_eq_range h, List.length_range]
  exact flatMap_range_eq_map _

theorem getElem?_listing_eq_some_iff (h : s.lowest = 0) (line : Nat) (l : TapeLine) :
    s.listing[line]? = some l ↔
      line < s.windowCells.length + s.windowCells.length / 8 ∧ TapeLine.ofPlace line = l := by
  simp only [listing_eq_map h, List.getElem?_map, Option.map_eq_some_iff,
    List.getElem?_eq_some_iff, List.length_range, List.getElem_range]
  constructor
  · rintro ⟨_, ⟨hline, rfl⟩, rfl⟩
    exact ⟨hline, rfl⟩
  · rintro ⟨hline, rfl⟩
    exact ⟨line, ⟨hline, rfl⟩, rfl⟩

/-- **Where the cells are**: each one stands in one line. -/
theorem getElem?_listing_eq_cell_iff (h : s.lowest = 0) (line i : Nat) :
    s.listing[line]? = some (.cell i) ↔ i < s.windowCells.length ∧ line = i + i / 8 := by
  rw [getElem?_listing_eq_some_iff h, TapeLine.ofPlace_eq_cell_iff]
  omega

/-- **Where the separators are**: behind the last cell of each group that is shown in full. -/
theorem getElem?_listing_eq_separator_iff (h : s.lowest = 0) (line : Nat) :
    s.listing[line]? = some .separator ↔
      ∃ k, 8 * k + 7 < s.windowCells.length ∧ line = 9 * k + 8 := by
  rw [getElem?_listing_eq_some_iff h, TapeLine.ofPlace_eq_separator_iff]
  constructor
  · rintro ⟨hline, k, rfl⟩
    exact ⟨k, by omega, rfl⟩
  · rintro ⟨k, hk, rfl⟩
    exact ⟨by omega, k, rfl⟩

/-! ### The line of the current cell -/

/-- The number of the current cell is less than that of the cells that are shown. -/
theorem Fits.pointer_lt_length_windowCells (hs : s.Fits m) (h : s.lowest = 0) :
    s.pointer < s.windowCells.length :=
  (mem_windowCells_iff_lt_length h _).mp (hs.mem_windowCells hs.lowest_le hs.le_highest)

/-- The line of the current cell is shifted as that of every cell. -/
theorem Fits.currentLine_eq (hs : s.Fits m) (h : s.lowest = 0) :
    s.currentLine = s.pointer + s.pointer / 8 := by
  have hpointer := hs.pointer_lt_length_windowCells h
  have hline : s.listing[s.pointer + s.pointer / 8]? = some (.cell s.pointer) :=
    (getElem?_listing_eq_cell_iff h _ _).mpr ⟨hpointer, rfl⟩
  obtain ⟨hlength, hcell⟩ := List.getElem?_eq_some_iff.mp hline
  have hfind : s.listing.findIdx? (· = .cell s.pointer) = some (s.pointer + s.pointer / 8) := by
    refine List.findIdx?_eq_some_iff_getElem.mpr ⟨hlength, decide_eq_true hcell, ?_⟩
    intro j hj hearlier
    have hat : s.listing[j]? = some (.cell s.pointer) :=
      List.getElem?_eq_some_iff.mpr ⟨_, of_decide_eq_true hearlier⟩
    have := ((getElem?_listing_eq_cell_iff h _ _).mp hat).2
    omega
  rw [currentLine, hfind, Option.getD_some]

/-- **The line of the current cell shows that cell**, and no other line does. -/
theorem Fits.getElem?_listing_eq_current_iff (hs : s.Fits m) (h : s.lowest = 0) (line : Nat) :
    s.listing[line]? = some (.cell s.pointer) ↔ line = s.currentLine := by
  rw [getElem?_listing_eq_cell_iff h, hs.currentLine_eq h]
  exact and_iff_right (hs.pointer_lt_length_windowCells h)

end State

end TapeMachine
