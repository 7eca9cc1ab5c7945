/-
**Panes on a screen.**

A frame is made of many widgets, and what a cell shows could depend on all of them.  It does not:
the widgets of a pane are drawn in the area of the pane, and the areas of the panes lie apart, so a
cell shows what its own pane puts there.  Inside the border of a pane that is a glyph of its lines,
or nothing.  None of this asks how large the areas are; that they are pieces of one screen is
enough.

Main definitions:

* `TapeMachine.Screen.Cell.ofGlyph?` — a cell with a glyph on it, or a blank one;
* `TapeMachine.Screen.Shows` — an area of a screen shows the glyphs of some lines;
* `TapeMachine.Layout.Tiles` — the areas of a layout are pieces of a screen.

Main results:

* `TapeMachine.Toolkit.Lawful.exists_renderAll`, `TapeMachine.Toolkit.Lawful.renderAll_keeps` —
  widgets on the screen are drawn, and leave everything else alone;
* `TapeMachine.Toolkit.Lawful.exists_layout` — **every screen is cut into areas** that lie apart;
* `TapeMachine.Toolkit.Lawful.shows_of_mem` — so the inside of a pane shows the lines of the pane.
-/

import Mathlib.Data.List.Basic
import TapeMachine.Viewer.Draw

set_option relaxedAutoImplicit false
set_option autoImplicit false

namespace TapeMachine

/-! ### What an area shows -/

/-- A cell of a blank screen with a glyph on it, if there is one. -/
def Screen.Cell.ofGlyph? (g? : Option Glyph) : Screen.Cell := Glyph.draw? g? blank

/-- An area of a screen shows some lines: at each of its rows and columns stands the glyph that is
given for them, and a blank where none is given. -/
def Screen.Shows (s : Screen) (a : Area) (glyph? : Nat → Nat → Option Glyph) : Prop :=
  ∀ i j : Nat, i < a.width → j < a.height →
    s.cell (a.x + i) (a.y + j) = Screen.Cell.ofGlyph? (glyph? j i)

theorem Screen.Shows.congr {s : Screen} {a : Area} {f g : Nat → Nat → Option Glyph}
    (h : s.Shows a f) (hfg : ∀ j < a.viewHeight, ∀ i, f j i = g j i) : s.Shows a g := by
  intro i j hi hj
  rw [h i j hi hj, hfg j (Nat.lt_of_lt_of_le hj (Nat.le_max_left _ _)) i]

/-- The glyph at a column of a row, where some lines are shown. -/
def Line.glyphAt? (lines : List Line) (row column : Nat) : Option Glyph :=
  lines[row]?.bind (·.glyphs[column]?)

/-! ### The areas of a layout -/

/-- The areas of a layout are pieces of a screen that lie apart. -/
structure Layout.Tiles (l : Layout) (screen : Area) : Prop where
  within : ∀ a ∈ [l.program, l.output, l.tape, l.status], a.Within screen
  apart : [l.program, l.output, l.tape, l.status].Pairwise Area.Apart

namespace Toolkit

/-- Widgets that are drawn after others are drawn on what these have made. -/
theorem renderAll_append {t : Toolkit} {lower upper : List Placed} {f g : t.Frame}
    (h : t.renderAll f (lower ++ upper) = .ok g) :
    ∃ f', t.renderAll f lower = .ok f' ∧ t.renderAll f' upper = .ok g := by
  rw [renderAll, List.foldlM_append] at h
  exact bind_eq_ok_iff.mp h

/-- The first of some widgets is drawn before the others. -/
theorem renderAll_cons {t : Toolkit} {p : Placed} {ps : List Placed} {f g : t.Frame}
    (h : t.renderAll f (p :: ps) = .ok g) :
    ∃ f', t.render p.widget p.area f = .ok f' ∧ t.renderAll f' ps = .ok g := by
  rw [renderAll, List.foldlM_cons] at h
  exact bind_eq_ok_iff.mp h

/-- A line that is a text. -/
theorem monospacedLine_raw {t : Toolkit} {text : List Char} :
    t.MonospacedLine (Line.raw text) ↔ t.Monospaced text := List.forall_mem_singleton

namespace Lawful

variable {t : Toolkit} (ht : t.Lawful)

include ht

/-- An area is cut into two pieces. -/
theorem exists_cutInTwo (o : Orientation) (first second : Constraint) (a : Area) :
    ∃ b c, t.cutInTwo o first second a = .ok (b, c) ∧ b.Within a ∧ c.Within a ∧ b.Apart c := by
  obtain ⟨pieces, hsplit⟩ := ht.split_ok o [first, second] a
  obtain ⟨b, c, rfl⟩ := List.length_eq_two.mp (ht.length_split hsplit)
  have hwithin := ht.split_within hsplit
  have hapart := ht.split_apart hsplit
  refine ⟨b, c, ?_, hwithin b (.head _), hwithin c (.tail _ (.head _)), ?_⟩
  · simp only [cutInTwo, hsplit]
    rfl
  · exact (List.pairwise_cons.mp hapart).1 c (.head _)

/-- **Every screen is cut into areas** that lie apart. -/
theorem exists_layout (screen : Area) :
    ∃ layout, Layout.ofArea t screen = .ok layout ∧ layout.Tiles screen := by
  obtain ⟨main, status, hroot, hmain, hstatus, hapart⟩ :=
    ht.exists_cutInTwo .vertical (.min 1) (.length 2) screen
  obtain ⟨left, tape, hcolumns, hleft, htape, hapart'⟩ :=
    ht.exists_cutInTwo .horizontal (.percentage 65) (.percentage 35) main
  obtain ⟨program, output, hrows, hprogram, houtput, hapart''⟩ :=
    ht.exists_cutInTwo .vertical (.min 3) (.length 10) left
  refine ⟨⟨program, output, tape, status⟩, ?_, ?_, ?_⟩
  · simp only [Layout.ofArea, hroot, hcolumns, hrows, bind, Except.bind]
    rfl
  · simp only [List.mem_cons, List.not_mem_nil, or_false, forall_eq_or_imp, forall_eq]
    exact ⟨hprogram.trans (hleft.trans hmain), houtput.trans (hleft.trans hmain),
      htape.trans hmain, hstatus⟩
  · simp only [List.pairwise_cons, List.mem_cons, List.not_mem_nil, or_false, forall_eq_or_imp,
      forall_eq, List.Pairwise.nil, and_true, false_imp_iff, implies_true]
    exact ⟨⟨hapart'', hapart'.mono hprogram (Area.Within.refl _),
      hapart.mono (hprogram.trans hleft) (Area.Within.refl _)⟩,
      ⟨hapart'.mono houtput (Area.Within.refl _),
        hapart.mono (houtput.trans hleft) (Area.Within.refl _)⟩,
      hapart.mono htape (Area.Within.refl _)⟩

/-! ### Widgets one after another -/

theorem render_area {w : Widget} {a : Area} {f g : t.Frame} (h : t.render w a f = .ok g) :
    (t.screen g).area = (t.screen f).area := by
  obtain ⟨hwidth, hheight⟩ := ht.render_size h
  rw [Screen.area, hwidth, hheight]
  rfl

/-- Widgets that are drawn on a screen leave its size and its cursor alone, and all cells beside
their areas. -/
theorem renderAll_keeps {widgets : List Placed} {f g : t.Frame}
    (h : t.renderAll f widgets = .ok g) :
    (t.screen g).area = (t.screen f).area ∧ (t.screen g).cursor = (t.screen f).cursor ∧
      ∀ x y, (∀ p ∈ widgets, p.area.contains x y = false) →
        (t.screen g).cell x y = (t.screen f).cell x y := by
  induction widgets generalizing f with
  | nil =>
      cases h
      exact ⟨rfl, rfl, fun _ _ _ => rfl⟩
  | cons p widgets ih =>
      obtain ⟨f', hp, h⟩ := renderAll_cons h
      obtain ⟨harea, hcursor, hcell⟩ := ih h
      refine ⟨harea.trans (ht.render_area hp), hcursor.trans (ht.render_cursor hp), ?_⟩
      intro x y hxy
      rw [List.forall_mem_cons] at hxy
      rw [hcell x y hxy.2, ht.render_outside hp hxy.1]

/-- **Widgets on the screen are drawn.** -/
theorem exists_renderAll {widgets : List Placed} {f : t.Frame}
    (h : ∀ p ∈ widgets, p.area.Within (t.screen f).area) :
    ∃ g, t.renderAll f widgets = .ok g := by
  induction widgets generalizing f with
  | nil => exact ⟨f, rfl⟩
  | cons p widgets ih =>
      rw [List.forall_mem_cons] at h
      obtain ⟨f', hp⟩ := ht.render_ok p.widget h.1
      obtain ⟨g, hg⟩ := ih fun q hq => ht.render_area hp ▸ h.2 q hq
      refine ⟨g, ?_⟩
      rw [renderAll, List.foldlM_cons, hp]
      exact hg

/-- The cursor does not change what the cells show. -/
theorem cell_showCursor (cursor : Option (Nat × Nat)) (f : t.Frame) :
    (t.screen (t.showCursor cursor f)).cell = (t.screen f).cell := by
  cases cursor with
  | none => rfl
  | some p => rw [showCursor, ht.screen_placeCursor]

theorem cursor_showCursor {f : t.Frame} (hf : (t.screen f).cursor = none)
    (cursor : Option (Nat × Nat)) : (t.screen (t.showCursor cursor f)).cursor = cursor := by
  cases cursor with
  | none => exact hf
  | some p => rw [showCursor, ht.screen_placeCursor]

/-! ### A pane -/

/-- What the border of a pane leaves for its lines. -/
theorem inner_paneBox (title : List Char) (color : Color) (a : Area) :
    t.inner (paneBox title color) a = t.inside a := ht.inner_eq_inside rfl a

theorem inside_within (a : Area) : (t.inside a).Within a := ht.inner_within _ a

/-- The widgets of a pane lie in its area. -/
theorem within_of_mem_widgets (text : PaneText) (a : Area) :
    ∀ p ∈ text.widgets t a, p.area.Within a := by
  simp only [PaneText.widgets, List.mem_cons, List.not_mem_nil, or_false, forall_eq_or_imp,
    forall_eq]
  exact ⟨Area.Within.refl a, ht.inner_within _ a⟩

/-- A pane that is drawn where nothing was shows its lines. -/
theorem cell_of_pane {text : PaneText} {a : Area} {f g : t.Frame}
    (h : t.renderAll f (text.widgets t a) = .ok g) (ha : a.Within (t.screen f).area)
    (hmono : ∀ l ∈ text.lines, t.MonospacedLine l) {i j : Nat} (hi : i < (t.inside a).width)
    (hj : j < (t.inside a).height) :
    (t.screen g).cell ((t.inside a).x + i) ((t.inside a).y + j) =
      Glyph.draw? (Line.glyphAt? text.lines j i)
        ((t.screen f).cell ((t.inside a).x + i) ((t.inside a).y + j)) := by
  obtain ⟨f', hbox, hlines⟩ := renderAll_cons h
  have harea := ht.render_area hbox
  have hlines : t.render (.text (.ofLines text.lines)) (t.inside a) f' = .ok g := by
    simpa [renderAll, ht.inner_paneBox] using hlines
  have hinside := (t.inside a).contains_add hi hj
  rw [ht.render_text hlines (harea ▸ (ht.inside_within a).trans ha) hmono hi hj]
  refine congrArg _ (ht.render_box hbox rfl ?_)
  rwa [ht.inner_paneBox]

/-- **The inside of a pane shows the lines of the pane**, when all that is drawn keeps to areas that
lie apart. -/
theorem shows_of_mem {panes : List (Area × List Placed)}
    (hwithin : ∀ q ∈ panes, ∀ p ∈ q.2, p.area.Within q.1)
    (hapart : panes.Pairwise fun q r => q.1.Apart r.1) {a : Area} {text : PaneText}
    (h : (a, text.widgets t a) ∈ panes) (hmono : ∀ l ∈ text.lines, t.MonospacedLine l)
    {width height : Nat} (ha : a.Within (Area.ofSize width height)) {g : t.Frame}
    (hdraw : t.renderAll (t.blank width height) (panes.flatMap Prod.snd) = .ok g) :
    (t.screen g).Shows (t.inside a) (Line.glyphAt? text.lines) := by
  intro i j hi hj
  have hcell := (ht.inside_within a) _ _ ((t.inside a).contains_add hi hj)
  obtain ⟨lower, upper, rfl⟩ := List.append_of_mem h
  rw [List.pairwise_append, List.pairwise_cons] at hapart
  obtain ⟨-, ⟨hupper, -⟩, hlower⟩ := hapart
  -- what is drawn before the pane and after it lies beside the cell
  have hbeside : ∀ rest : List (Area × List Placed), (∀ q ∈ rest, q.1.Apart a) →
      (∀ q ∈ rest, ∀ p ∈ q.2, p.area.Within q.1) → ∀ p ∈ rest.flatMap Prod.snd,
        p.area.contains ((t.inside a).x + i) ((t.inside a).y + j) = false := by
    intro rest hrest hwithin p hp
    obtain ⟨q, hq, hp⟩ := List.mem_flatMap.mp hp
    exact (hwithin q hq p hp).contains_eq_false ((hrest q hq).symm.contains_eq_false hcell)
  rw [List.flatMap_append, List.flatMap_cons] at hdraw
  obtain ⟨f₁, hbefore, hdraw⟩ := renderAll_append hdraw
  obtain ⟨f₂, hpane, hafter⟩ := renderAll_append hdraw
  obtain ⟨harea, -, hbefore⟩ := ht.renderAll_keeps hbefore
  obtain ⟨-, -, hafter⟩ := ht.renderAll_keeps hafter
  have hscreen : a.Within (t.screen f₁).area := by
    rw [harea, ht.screen_blank]
    exact ha
  rw [hafter _ _ (hbeside upper (fun q hq => (hupper q hq).symm) fun q hq =>
      hwithin q (List.mem_append_right _ (.tail _ hq))),
    ht.cell_of_pane hpane hscreen hmono hi hj,
    hbefore _ _ (hbeside lower (fun q hq => hlower q hq _ (.head _)) fun q hq =>
      hwithin q (List.mem_append_left _ hq)), ht.screen_blank]
  rfl

end Lawful

end Toolkit

end TapeMachine
