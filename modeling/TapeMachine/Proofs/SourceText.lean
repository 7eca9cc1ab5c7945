/-
**The source text and the program.**

The viewer keeps the source text beside the session that runs its program, and hands the text to the
editor, not the program.  So the two have to agree whenever the editor is opened, and what the
editor gives back has to be the same program when nothing was typed.  The text need not be the same:
the editor holds lines, and put together again these lack a newline at the end of the text and every
carriage return before a newline.  Neither of them is an instruction.

Main results:

* `TapeMachine.Program.ofText_joinLines_lines` — **the lines of a text spell its program**;
* `TapeMachine.Editor.text_ofSource` — the text of an editor that was just opened;
* `TapeMachine.Viewer.program_agrees_with_source` — in every viewer that can come about the source
  spells the program, and opening the editor and applying its text at once keeps the program.
-/

import TapeMachine.Proofs.Interaction
import TapeMachine.Screen.Standard

set_option relaxedAutoImplicit false
set_option autoImplicit false

namespace TapeMachine

open Text

/-- **The lines of a text spell its program**: no character of a line ending is an instruction. -/
theorem Program.ofText_joinLines_lines (t : List Char) :
    Program.ofText (joinLines (lines t)) = Program.ofText t := by
  have hlines := filterMap_joinLines_lines (f := Instruction.ofChar?) rfl rfl t
  rw [Program.ofText, Program.ofText, hlines]

/-- Nothing but characters of line endings is lost when lines are put together again. -/
theorem filter_joinLines_lines (t : List Char) :
    (joinLines (lines t)).filter (fun c => c ≠ '\n' && c ≠ '\r') =
      t.filter (fun c => c ≠ '\n' && c ≠ '\r') := by
  simp only [← List.filterMap_eq_filter]
  exact filterMap_joinLines_lines rfl rfl t

namespace Editor

/-- The text of an editor that was just opened. -/
theorem text_ofSource (source : String) :
    (ofSource source).text = joinLines (Text.lines source.toList) := by
  simp only [ofSource, ofLines, text]
  split
  · rename_i h
    rw [List.isEmpty_iff.mp h]
    rfl
  · rfl

end Editor

namespace Viewer

/-- **The source text and the program agree.**  Whatever is done to a viewer whose session was
loaded from its source, the source of the viewer spells the program of its session.  When the editor
is opened and its text applied at once, the source becomes its lines put together with newlines, and
the program stays what it was.  For the lines of any text, put together again, spell the program of
the text; they are the text without some characters, and all that is lost are characters of line
endings. -/
theorem program_agrees_with_source {t : Toolkit} (ht : t.Lawful) (source : String)
    (filename : Option String) (m : Machine) (d : Delays) (ops : List Operation) :
    (∃ v, ops.foldlM (perform t) (ofSession (Session.load source m d) source filename) = .ok v ∧
      v.session.program = Program.ofSource v.source ∧
      (v.editor = none → ∀ mods now k later, mods.control = false → applies k = true →
        ∃ u w, v.press ⟨.char 'e', mods⟩ now = .ok (u, false) ∧ u.press k later = .ok (w, false) ∧
          w.editor = none ∧ w.source = String.ofList (joinLines (lines v.source.toList)) ∧
          w.session.program = v.session.program)) ∧
    ∀ t : String, Program.ofSource (String.ofList (joinLines (lines t.toList))) =
        Program.ofSource t ∧
      (joinLines (lines t.toList)).Sublist t.toList ∧
      (joinLines (lines t.toList)).filter (fun c => c ≠ '\n' && c ≠ '\r') =
        t.toList.filter (fun c => c ≠ '\n' && c ≠ '\r') := by
  have hlines : ∀ t : String, Program.ofSource (String.ofList (joinLines (lines t.toList))) =
      Program.ofSource t := by
    intro t
    rw [Program.ofSource, String.toList_ofList, Program.ofText_joinLines_lines, Program.ofSource]
  refine ⟨?_, fun t => ⟨hlines t, joinLines_lines_sublist _, filter_joinLines_lines _⟩⟩
  obtain ⟨v, hv, hsound⟩ :=
    (sound_ofSession source source filename m d).exists_reached_source ht rfl ops
  refine ⟨v, hv, hsound.replays.program, ?_⟩
  intro closed mods now k later hm hk
  have hedit : v.edit.editor = some (Editor.ofSource v.source) := rfl
  refine ⟨v.edit, _, press_edit closed hm now, press_apply hedit hk later, rfl, ?_, ?_⟩
  · rw [← Editor.text_ofSource]
    rfl
  · have happly : (v.edit.apply (Editor.ofSource v.source)).session.program =
        Program.ofSource (String.ofList (Editor.ofSource v.source).text) := rfl
    rw [happly, Editor.text_ofSource, hlines, hsound.replays.program]

/-- Opening the editor and applying its text takes a carriage return out of the source, and leaves
the program what it was. -/
theorem applying_drops_the_carriage_return :
    let v := ofSession (Session.load "+\x0d\n-" Machine.standard Delays.standard) "+\x0d\n-" none
    ∃ u w, v.press ⟨.char 'e', .none⟩ 0 = .ok (u, false) ∧
      u.press ⟨.function 5, .none⟩ 1 = .ok (w, false) ∧ w.source = "+\n-" ∧
      w.session.program = v.session.program := by
  intro v
  obtain ⟨⟨v', hv, -, happly⟩, -⟩ := program_agrees_with_source Toolkit.lawful_standard
    "+\x0d\n-" none Machine.standard Delays.standard []
  cases hv
  obtain ⟨u, w, hu, hw, -, hsource, hprogram⟩ :=
    happly rfl .none 0 ⟨.function 5, .none⟩ 1 rfl (by decide)
  exact ⟨u, w, hu, hw, hsource.trans (by decide), hprogram⟩

end Viewer

end TapeMachine
