/-
**Layers.**

A toolkit can draw by putting layers on what is there, each of which says what becomes of the cell
at a column and a row.  A layer leaves everything outside its area alone.

Main definitions:

* `TapeMachine.Layer` — a change of every cell;
* `TapeMachine.Layer.text`, `TapeMachine.Layer.border`, `TapeMachine.Layer.erase`,
  `TapeMachine.Layer.shade` — lines of text, a border, blank cells, and a style for all cells of an
  area;
* `TapeMachine.Layer.box`, `TapeMachine.Layer.paragraph` — a border with a title, and lines of text
  in a style.

Main results:

* `TapeMachine.Layer.confined_box`, `TapeMachine.Layer.confined_paragraph`,
  `TapeMachine.Layer.confined_erase` — what a layer leaves alone;
* `TapeMachine.Layer.text_add` — what a text shows;
* `TapeMachine.Layer.box_of_inner` — a border leaves the cells alone that lie inside.
-/

import TapeMachine.Screen.Widget

set_option relaxedAutoImplicit false
set_option autoImplicit false

namespace TapeMachine

/-- What becomes of the cell at a column and a row. -/
abbrev Layer := Nat → Nat → Screen.Cell → Screen.Cell

namespace Area

/-- What a border along all edges leaves of an area. -/
def inside (a : Area) : Area :=
  ⟨min (a.x + 1) (a.x + a.width), min (a.y + 1) (a.y + a.height), a.width - 2, a.height - 2⟩

/-- What a line along the upper edge leaves of an area. -/
def below (a : Area) : Area := ⟨a.x, min (a.y + 1) (a.y + a.height), a.width, a.height - 1⟩

theorem contains_inside_iff (a : Area) (x y : Nat) :
    a.inside.contains x y = true ↔
      (a.x < x ∧ x + 1 < a.x + a.width) ∧ (a.y < y ∧ y + 1 < a.y + a.height) := by
  rw [contains_iff]
  simp only [inside]
  omega

theorem contains_below_iff (a : Area) (x y : Nat) :
    a.below.contains x y = true ↔
      (a.x ≤ x ∧ x < a.x + a.width) ∧ (a.y < y ∧ y < a.y + a.height) := by
  rw [contains_iff]
  simp only [below]
  omega

end Area

/-- What the border of a box leaves of an area. -/
def Edges.inner : Edges → Area → Area
  | all, a => a.inside
  | top, a => a.below

theorem Edges.inner_within (e : Edges) (a : Area) : (e.inner a).Within a := by
  intro x y h
  rw [Area.contains_iff]
  cases e with
  | all =>
      rw [inner, Area.contains_inside_iff] at h
      omega
  | top =>
      rw [inner, Area.contains_below_iff] at h
      omega

namespace Layer

/-- Lines of text from the upper left corner of an area on, cut off at its edges. -/
def text (a : Area) (lines : List (List Glyph)) : Layer := fun x y c =>
  if a.contains x y then Glyph.draw? (lines[y - a.y]?.bind (·[x - a.x]?)) c else c

/-- The cells of an area in a style. -/
def shade (a : Area) (style : Style) : Layer := fun x y c =>
  if a.contains x y then style.apply c else c

/-- The cells of an area blank. -/
def erase (a : Area) : Layer := fun x y c => if a.contains x y then Screen.Cell.blank else c

/-- The piece of a border along all edges at a cell of an area.  Where an area is too narrow for two
edges, corners go before edges, the upper ones before the lower ones and the left ones before the
right ones. -/
def cornerOrEdge? (a : Area) (x y : Nat) : Option Char :=
  let top := y = a.y
  let bottom := y + 1 = a.y + a.height
  let left := x = a.x
  let right := x + 1 = a.x + a.width
  if left ∧ top then some '┌'
  else if left ∧ bottom then some '└'
  else if right ∧ top then some '┐'
  else if right ∧ bottom then some '┘'
  else if bottom ∨ top then some '─'
  else if right ∨ left then some '│'
  else none

/-- The piece of a border at a cell of an area. -/
def borderSymbol? (e : Edges) (a : Area) (x y : Nat) : Option Char :=
  match e with
  | .all => cornerOrEdge? a x y
  | .top => if y = a.y then some '─' else none

/-- A border along edges of an area, in a style. -/
def border (e : Edges) (a : Area) (style : Style) : Layer := fun x y c =>
  if a.contains x y then Glyph.draw? ((borderSymbol? e a x y).map fun s => ⟨s, style⟩) c else c

/-- The place of a title in the upper edge of an area. -/
def titleArea (e : Edges) (a : Area) : Area :=
  match e with
  | .all => ⟨a.x + 1, a.y, a.width - 2, min a.height 1⟩
  | .top => ⟨a.x, a.y, a.width, min a.height 1⟩

/-- A border with a title in the upper edge, and a style for all cells. -/
def box (b : Box) (a : Area) : Layer := fun x y c =>
  text (titleArea b.edges a) (b.title.toList.map fun t => glyphs t.style t.text) x y
    (border b.edges a b.borderStyle x y (shade a b.style x y c))

/-- Lines of text, and a style for all cells. -/
def paragraph (a : Area) (style : Style) (lines : List (List Glyph)) : Layer := fun x y c =>
  text a lines x y (shade a style x y c)

/-! ### What a layer leaves alone -/

/-- A layer leaves every cell outside an area alone. -/
def Confined (a : Area) (layer : Layer) : Prop :=
  ∀ (x y : Nat) (c : Screen.Cell), a.contains x y = false → layer x y c = c

theorem confined_text (a : Area) (lines : List (List Glyph)) : Confined a (text a lines) := by
  intro x y c h
  simp [text, h]

theorem confined_shade (a : Area) (style : Style) : Confined a (shade a style) := by
  intro x y c h
  simp [shade, h]

theorem confined_erase (a : Area) : Confined a (erase a) := by
  intro x y c h
  simp [erase, h]

theorem confined_border (e : Edges) (a : Area) (style : Style) : Confined a (border e a style) := by
  intro x y c h
  simp [border, h]

/-- The place of a title lies in the upper edge. -/
theorem eq_of_contains_titleArea {e : Edges} {a : Area} {x y : Nat}
    (h : (titleArea e a).contains x y = true) : a.contains x y = true ∧ y = a.y := by
  rw [Area.contains_iff] at h ⊢
  cases e <;> simp only [titleArea] at h <;> omega

theorem confined_box (b : Box) (a : Area) : Confined a (box b a) := by
  intro x y c h
  have htitle : (titleArea b.edges a).contains x y = false :=
    Area.Within.contains_eq_false (fun _ _ ht => (eq_of_contains_titleArea ht).1) h
  rw [box, confined_text _ _ _ _ _ htitle, confined_border _ _ _ _ _ _ h,
    confined_shade _ _ _ _ _ h]

theorem confined_paragraph (a : Area) (style : Style) (lines : List (List Glyph)) :
    Confined a (paragraph a style lines) := by
  intro x y c h
  rw [paragraph, confined_shade _ _ _ _ _ h, confined_text _ _ _ _ _ h]

/-! ### What a layer shows -/

@[simp] theorem shade_plain (a : Area) (x y : Nat) (c : Screen.Cell) :
    shade a Style.plain x y c = c := by
  simp [shade]

/-- **What a text shows**: the lines count the rows of the area, and the glyphs of a line the
columns. -/
theorem text_add {a : Area} {i j : Nat} (hi : i < a.width) (hj : j < a.height)
    (lines : List (List Glyph)) (c : Screen.Cell) :
    text a lines (a.x + i) (a.y + j) c = Glyph.draw? (lines[j]?.bind (·[i]?)) c := by
  simp only [text, a.contains_add hi hj, if_true, Nat.add_sub_cancel_left]

theorem paragraph_plain (a : Area) (lines : List (List Glyph)) :
    paragraph a Style.plain lines = text a lines := by
  funext x y c
  rw [paragraph, shade_plain]

/-- A border has no piece in what it leaves of its area. -/
theorem borderSymbol?_of_inner {e : Edges} {a : Area} {x y : Nat}
    (h : (e.inner a).contains x y = true) : borderSymbol? e a x y = none := by
  cases e with
  | all =>
      rw [Edges.inner, Area.contains_inside_iff] at h
      have hx : x ≠ a.x ∧ x + 1 ≠ a.x + a.width := by omega
      have hy : y ≠ a.y ∧ y + 1 ≠ a.y + a.height := by omega
      simp [borderSymbol?, cornerOrEdge?, hx, hy]
  | top =>
      rw [Edges.inner, Area.contains_below_iff] at h
      exact if_neg (by omega)

/-- **A border leaves the cells alone that lie inside**, when no style is asked for. -/
theorem box_of_inner {b : Box} {a : Area} {x y : Nat} (hstyle : b.style = Style.plain)
    (h : (b.edges.inner a).contains x y = true) (c : Screen.Cell) : box b a x y c = c := by
  have htitle : (titleArea b.edges a).contains x y = false := by
    rw [Bool.eq_false_iff]
    intro ht
    have hy := (eq_of_contains_titleArea ht).2
    cases he : b.edges with
    | all =>
        rw [he, Edges.inner, Area.contains_inside_iff] at h
        omega
    | top =>
        rw [he, Edges.inner, Area.contains_below_iff] at h
        omega
  rw [box, confined_text _ _ _ _ _ htitle, border, borderSymbol?_of_inner h, hstyle, shade_plain]
  exact ite_self c

end Layer

end TapeMachine
