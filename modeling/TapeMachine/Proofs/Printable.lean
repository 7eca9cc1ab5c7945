/-
**Printable lines.**

What the panes write of a run are instructions, digits, letters of fixed texts, and bytes that stand
for printable characters or are escaped.  All of it is printable, so every toolkit writes these
lines character by character.  Only the lines of the editor can hold anything else.

Main definitions:

* `TapeMachine.Text.Printable`, `TapeMachine.Line.Printable` — all characters are printable.

Main results:

* `TapeMachine.Toolkit.Lawful.monospacedLine_of_printable` — printable lines take one cell for each
  character;
* `TapeMachine.printable_eventLine`, `TapeMachine.printable_valueText` — what is written for an
  event and for a value is printable.
-/

import TapeMachine.Text.Lines
import TapeMachine.Viewer.Panes

set_option relaxedAutoImplicit false
set_option autoImplicit false

namespace TapeMachine

/-- All characters of a text are printable. -/
def Text.Printable (t : List Char) : Prop := ∀ c ∈ t, isPrintable c = true

instance (t : List Char) : Decidable (Text.Printable t) :=
  List.decidableBAll (fun c => isPrintable c = true) t

/-- All characters of a line are printable. -/
def Line.Printable (l : Line) : Prop := ∀ s ∈ l.spans, Text.Printable s.text

@[simp] theorem Line.printable_raw {t : List Char} : (raw t).Printable ↔ Text.Printable t :=
  List.forall_mem_singleton

theorem Toolkit.Lawful.monospacedLine_of_printable {t : Toolkit} (ht : t.Lawful) {l : Line}
    (h : l.Printable) : t.MonospacedLine l := fun s hs => ht.monospaced_of_printable (h s hs)

namespace Text

@[simp] theorem printable_nil : Printable [] := nofun

@[simp] theorem printable_cons {c : Char} {t : List Char} :
    Printable (c :: t) ↔ isPrintable c = true ∧ Printable t := List.forall_mem_cons

@[simp] theorem printable_append {s t : List Char} :
    Printable (s ++ t) ↔ Printable s ∧ Printable t := List.forall_mem_append

theorem printable_replicate {c : Char} (h : isPrintable c = true) (n : Nat) :
    Printable (List.replicate n c) := by
  intro d hd
  rwa [List.eq_of_mem_replicate hd]

/-- Digits are printable. -/
theorem isPrintable_of_isDigit {c : Char} (h : c.isDigit = true) : isPrintable c = true := by
  simp only [Char.isDigit, Bool.and_eq_true, decide_eq_true_eq] at h
  have hlower : 0x20 ≤ c.toNat := Nat.le_trans (by decide) h.1
  have hupper : c.toNat < 0x7F := Nat.lt_of_le_of_lt h.2 (by decide)
  simp [isPrintable, hlower, hupper]

@[simp] theorem printable_repr (n : Nat) : Printable n.repr.toList :=
  fun _ hc => isPrintable_of_isDigit (isDigit_of_mem_repr hc)

@[simp] theorem printable_decimal (n : Nat) : Printable (decimal n) := printable_repr n

@[simp] theorem printable_padLeft {width : Nat} {t : List Char} :
    Printable (padLeft width t) ↔ Printable t := by
  rw [padLeft, printable_append, and_iff_right (printable_replicate rfl _)]

end Text

open Text

theorem printable_toChar (i : Instruction) : isPrintable i.toChar = true := by
  cases i <;> decide

theorem printable_cellBits (value : UInt8) : Printable (cellBits value) := by
  have hbit : ∀ weight, isPrintable (bit value.toNat weight) = true := by
    intro weight
    unfold bit
    split <;> decide
  have hblank : isPrintable ' ' = true := by decide
  simp [cellBits, hbit, hblank]

/-- Bytes that stand for no printable character are escaped. -/
theorem printable_cellAscii (value : UInt8) : Printable (cellAscii value) := by
  have hchar : ∀ n < 0x7F, 0x20 ≤ n → isPrintable (Char.ofNat n) = true := by decide
  have hdigit : ∀ n < 16, isPrintable (Nat.digitChar n).toUpper = true := by decide
  have hlt := value.toNat_lt
  unfold cellAscii
  dsimp only
  split
  · next h =>
      rw [printable_cons, printable_cons]
      exact ⟨by decide, hchar _ (Nat.lt_succ_of_le h.2) h.1, by decide⟩
  · split
    · decide
    · split
      · decide
      · split
        · decide
        · rw [hexEscape, printable_cons, printable_cons, printable_cons, printable_cons]
          exact ⟨by decide, by decide, hdigit _ (by omega), hdigit _ (by omega), printable_nil⟩

theorem printable_message (u : Unmatched) : Printable u.message.toList := by
  have hside : Printable u.side.quoted.toList := by
    cases u.side <;> decide
  have htext : u.message.toList = "Unmatched bracket ".toList ++ u.side.quoted.toList ++
      " at instruction ".toList ++ u.position.repr.toList := by
    rw [← String.toList_append, ← String.toList_append, ← String.toList_append]
    rfl
  rw [htext, printable_append, printable_append, printable_append]
  exact ⟨⟨⟨by decide, hside⟩, by decide⟩, printable_repr _⟩

theorem printable_text (event : Event) : Printable event.text.toList := by
  cases event with
  | value v =>
      simp only [Event.text, String.toList_append, printable_append]
      exact ⟨by decide, printable_repr _⟩
  | error u =>
      simp only [Event.text, String.toList_append, printable_append]
      exact ⟨by decide, printable_message u⟩

/-- **What is written for an event is printable.** -/
theorem printable_eventLine (display : Display) (event : Event) :
    Printable (event.line display) := by
  cases event with
  | error u => exact printable_text (.error u)
  | value v =>
      cases display with
      | binary => exact printable_text (.value v)
      | ascii =>
          simp only [Event.line, List.cons_append, printable_cons, printable_append,
            printable_padLeft]
          exact ⟨by decide, by decide, printable_repr _, by decide, by decide,
            printable_cellAscii v⟩

/-- **What is written for a value is printable.** -/
theorem printable_valueText (display : Display) (value : UInt8) :
    Printable (Viewer.valueText display value) := by
  cases display with
  | binary => exact printable_cellBits value
  | ascii => exact printable_padLeft.mpr (printable_cellAscii value)

end TapeMachine
