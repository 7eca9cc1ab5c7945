/-
**The standard toolkit.**

The toolkit that programs run with puts layers on a screen.  Pieces of an area follow each other
from its beginning on and get what they ask for, as long as there is something left; boxes are drawn
with light lines.  Every character takes one cell, and is only said to where every terminal agrees.

Main definitions:

* `TapeMachine.Constraint.asked`, `TapeMachine.Area.cut` — how areas are cut;
* `TapeMachine.Widget.layer` — how widgets are drawn;
* `TapeMachine.Toolkit.standard` — **the standard toolkit**.

Main results:

* `TapeMachine.Area.within_of_mem_cut`, `TapeMachine.Area.pairwise_apart_cut` — the pieces of an
  area lie in it, and lie apart;
* `TapeMachine.Toolkit.lawful_standard` — the standard toolkit obeys the laws.
-/

import TapeMachine.Screen.Layer
import TapeMachine.Screen.Toolkit
import TapeMachine.Screen.Wrap

set_option relaxedAutoImplicit false
set_option autoImplicit false

namespace TapeMachine

/-! ### Areas -/

/-- What a piece asks for, out of so many columns or rows and besides what the other pieces take of
them.  A half is rounded up. -/
def Constraint.asked (size others : Nat) : Constraint → Nat
  | min n => max n (size - others)
  | length n => n
  | percentage n => (n * size + 50) / 100

/-- What pieces ask for that do not take what is left. -/
def Constraint.fixed (size : Nat) : Constraint → Nat
  | min _ => 0
  | c => c.asked size 0

/-- What each of some pieces asks for. -/
def Constraint.askedAll (size : Nat) (cs : List Constraint) : List Nat :=
  let others := cs.foldl (fun taken c => taken + c.fixed size) 0
  cs.map (asked size others)

namespace Area

/-- The columns or rows of an area. -/
def extent (o : Orientation) (a : Area) : Nat :=
  match o with
  | .horizontal => a.width
  | .vertical => a.height

/-- The first columns or rows of an area. -/
def front (o : Orientation) (n : Nat) (a : Area) : Area :=
  match o with
  | .horizontal => { a with width := min n a.width }
  | .vertical => { a with height := min n a.height }

/-- The columns or rows of an area behind the first. -/
def behind (o : Orientation) (n : Nat) (a : Area) : Area :=
  match o with
  | .horizontal => { a with x := a.x + min n a.width, width := a.width - n }
  | .vertical => { a with y := a.y + min n a.height, height := a.height - n }

/-- An area cut into pieces of the given sizes, as far as there is something left for them. -/
def cut (o : Orientation) : List Nat → Area → List Area
  | [], _ => []
  | n :: ns, a => a.front o n :: cut o ns (a.behind o n)

theorem front_within (o : Orientation) (n : Nat) (a : Area) : (a.front o n).Within a := by
  intro x y h
  rw [contains_iff] at h ⊢
  cases o <;> simp only [front] at h <;> omega

theorem behind_within (o : Orientation) (n : Nat) (a : Area) : (a.behind o n).Within a := by
  intro x y h
  rw [contains_iff] at h ⊢
  cases o <;> simp only [behind] at h <;> omega

theorem front_apart_behind (o : Orientation) (n : Nat) (a : Area) :
    (a.front o n).Apart (a.behind o n) := by
  intro x y hfront hbehind
  rw [contains_iff] at hfront hbehind
  cases o <;> simp only [front, behind] at hfront hbehind <;> omega

theorem length_cut (o : Orientation) (ns : List Nat) (a : Area) :
    (cut o ns a).length = ns.length := by
  induction ns generalizing a with
  | nil => rfl
  | cons n ns ih => rw [cut, List.length_cons, List.length_cons, ih]

/-- **The pieces of an area lie in it.** -/
theorem within_of_mem_cut {o : Orientation} {ns : List Nat} {a b : Area} (h : b ∈ cut o ns a) :
    b.Within a := by
  induction ns generalizing a with
  | nil => cases h
  | cons n ns ih =>
      rcases List.mem_cons.mp h with rfl | h
      · exact front_within o n a
      · exact (ih h).trans (behind_within o n a)

/-- **The pieces of an area lie apart**, since each is cut from what is left behind the others. -/
theorem pairwise_apart_cut (o : Orientation) (ns : List Nat) (a : Area) :
    (cut o ns a).Pairwise Apart := by
  induction ns generalizing a with
  | nil => exact .nil
  | cons n ns ih =>
      refine List.pairwise_cons.mpr ⟨fun b hb => ?_, ih (a.behind o n)⟩
      exact (front_apart_behind o n a).mono (Within.refl _) (within_of_mem_cut hb)

end Area

/-! ### Widgets -/

/-- The rows that a paragraph takes. -/
def Paragraph.rows (p : Paragraph) (width : Nat) : List (List Glyph) :=
  let lines := p.lines.map Line.glyphs
  if p.wrap then wrapLines width lines else lines

/-- What a widget does to the cells of an area. -/
def Widget.layer : Widget → Area → Layer
  | box b, a => Layer.box b a
  | text p, a => Layer.paragraph a p.style (p.rows a.width)
  | clear, a => Layer.erase a

theorem Widget.confined_layer (w : Widget) (a : Area) : Layer.Confined a (w.layer a) := by
  cases w with
  | box b => exact Layer.confined_box b a
  | text p => exact Layer.confined_paragraph a p.style (p.rows a.width)
  | clear => exact Layer.confined_erase a

namespace Toolkit

/-- **The standard toolkit.** -/
def standard : Toolkit where
  Frame := Screen
  blank := Screen.empty
  screen f := f
  split o cs a := .ok (a.cut o (Constraint.askedAll (a.extent o) cs))
  inner b a := b.edges.inner a
  render w a s :=
    let layer := w.layer a
    .ok { s with cell := fun x y => layer x y (s.cell x y) }
  placeCursor x y s := { s with cursor := some (x, y) }
  Monospaced text := ∀ c ∈ text, isPrintable c = true

/-- What a widget does to a cell. -/
theorem cell_of_render_standard {w : Widget} {a : Area} {f g : Screen}
    (h : standard.render w a f = .ok g) (x y : Nat) :
    g.cell x y = w.layer a x y (f.cell x y) := by
  cases h
  rfl

/-- **The standard toolkit obeys the laws.** -/
theorem lawful_standard : standard.Lawful where
  screen_blank _ _ := rfl
  screen_placeCursor _ _ _ := rfl
  split_ok _ _ _ := ⟨_, rfl⟩
  length_split := by
    intro o cs a pieces h
    cases h
    rw [Area.length_cut, Constraint.askedAll, List.length_map]
  split_within := by
    intro o cs a pieces h b hb
    cases h
    exact Area.within_of_mem_cut hb
  split_apart := by
    intro o cs a pieces h
    cases h
    exact Area.pairwise_apart_cut _ _ _
  inner_within b a := b.edges.inner_within a
  inner_eq_inside := by
    intro b hb a
    exact congrArg (Edges.inner · a) hb
  render_ok _ _ _ _ := ⟨_, rfl⟩
  render_size := by
    intro w a f g h
    cases h
    exact ⟨rfl, rfl⟩
  render_cursor := by
    intro w a f g h
    cases h
    rfl
  render_outside := by
    intro w a f g h x y hxy
    exact (cell_of_render_standard h x y).trans (w.confined_layer a x y _ hxy)
  render_box := by
    intro b a f g h hstyle x y hxy
    exact (cell_of_render_standard h x y).trans (Layer.box_of_inner hstyle hxy _)
  render_text := by
    intro lines a f g h _ _ i j hi hj
    have hrows : (Paragraph.ofLines lines).rows a.width = lines.map Line.glyphs := rfl
    have hlayer : (Widget.text (Paragraph.ofLines lines)).layer a =
        Layer.text a (lines.map Line.glyphs) := by
      rw [Widget.layer, hrows]
      exact Layer.paragraph_plain a _
    refine (cell_of_render_standard h _ _).trans ?_
    rw [hlayer, Layer.text_add hi hj, List.getElem?_map, Option.bind_map]
    rfl
  monospaced_of_printable h := h

end Toolkit

end TapeMachine
