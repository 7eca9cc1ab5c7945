/-
**The caret marks the offending bracket.**

A report about a position shows an excerpt of the program and a caret below the instruction that is
meant.  Near the beginning of the program the excerpt is cut on the left, which moves the caret with
it; near the end it is cut on the right, which must not move the caret out of it.  Both are settled
by where the excerpt begins: the caret stands as far from its left end as the position stands from
the beginning of the excerpt.

That a report of a fault can be printed at all rests on the run.  The position of a fault is that of
the bracket that could not jump, which is a position of the program; so the excerpt is not empty and
the character above the caret is that bracket.

Main results:

* `TapeMachine.Program.excerpt_slice`, `TapeMachine.Program.excerpt_caret` — the two lines of an
  excerpt;
* `TapeMachine.State.get?_of_fault?` — **a fault is reported at its bracket**;
* `TapeMachine.Command.lines_faultReport` — the lines of a report;
* `TapeMachine.Command.caret_marks_the_offender` — what is printed above the caret.
-/

import TapeMachine.Command.Report
import TapeMachine.Proofs.Fault
import TapeMachine.Text.Lines

set_option relaxedAutoImplicit false
set_option autoImplicit false

namespace TapeMachine

namespace Program

variable {p : Program} {i : Nat}

/-! ### Excerpts -/

theorem map_toChar_slice (p : Program) (start stop : Nat) :
    (p.slice start stop).map Instruction.toChar = (p.chars.take stop).drop start := by
  rw [slice, chars, toList, Array.toList_extract, List.extract_eq_take_drop, ← List.drop_take,
    List.map_drop, List.map_take]

theorem length_chars (p : Program) : p.chars.length = p.length := by
  rw [chars, List.length_map, length_toList]

theorem getElem?_chars (p : Program) (i : Nat) :
    p.chars[i]? = (p.get? i).map Instruction.toChar := by
  rw [chars, List.getElem?_map, get?_eq_getElem?_toList]

theorem excerptStart_of_lt (h : i < p.length) : p.excerptStart i = i - 32 :=
  Nat.min_eq_left (Nat.le_trans (Nat.sub_le i 32) (Nat.le_of_lt h))

theorem excerpt_slice (h : i < p.length) :
    (p.excerpt i).slice = (p.chars.take (min (i + 33) p.length)).drop (i - 32) := by
  rw [excerpt, map_toChar_slice, excerptStart_of_lt h]
  rfl

/-- The caret stands as far from the left end as the position from the beginning of the excerpt. -/
theorem excerpt_caret (h : i < p.length) :
    (p.excerpt i).caret = List.replicate (i - (i - 32)) ' ' ++ ['^'] := by
  rw [excerpt, excerptStart_of_lt h]

/-- The excerpt is a slice of the spelling of the program, and its ends fit together. -/
theorem sliceList_excerpt (h : i < p.length) :
    sliceList p.chars (i - 32) (min (i + 33) p.length) = .ok (p.excerpt i).slice := by
  have hstart : i - 32 ≤ min (i + 33) p.length := by omega
  have hstop : min (i + 33) p.length ≤ p.chars.length := by
    rw [length_chars]
    exact Nat.min_le_right _ _
  rw [sliceList_eq_ok hstart hstop, excerpt_slice h]

theorem length_excerpt_slice (h : i < p.length) :
    (p.excerpt i).slice.length = min (i + 33) p.length - (i - 32) := by
  rw [excerpt_slice h, List.length_drop, List.length_take, length_chars]
  omega

/-- **The instruction above the caret is the one at the position.** -/
theorem getElem?_excerpt_slice (h : i < p.length) :
    (p.excerpt i).slice[i - (i - 32)]? = (p.get? i).map Instruction.toChar := by
  have hi : i - 32 + (i - (i - 32)) = i := by omega
  rw [excerpt_slice h, List.getElem?_drop, hi, List.getElem?_take_of_lt (by omega), getElem?_chars]

/-- The excerpt of a program that fits in memory can be put together. -/
theorem checkedExcerpt_of_lt (h : i < p.length) (hp : p.length ≤ longestLength) :
    p.checkedExcerpt i = .ok (p.excerpt i) := by
  have hword : longestLength + 33 < Text.word64 := by decide
  have hlong : 32 ≤ longestLength := by decide
  have hsum : checkedSum i (Excerpt.window + 1) = .ok (i + 33) :=
    checkedSum_of_lt (Nat.lt_trans (Nat.add_lt_add_right (Nat.lt_of_lt_of_le h hp) 33) hword)
  have hcaret : checkedLength (i - p.excerptStart i) = .ok (i - p.excerptStart i) := by
    refine checkedLength_of_le ?_
    rw [excerptStart_of_lt h]
    omega
  simp only [checkedExcerpt, hsum, hcaret, Except.map]

end Program

/-! ### Faults of runs -/

namespace State

/-- **A fault is reported at its bracket**, which is an instruction of the program. -/
theorem get?_of_fault? {p : Program} {m : Machine} {n : Nat} {s : State} {u : Unmatched}
    (h : (start p m).after p n = .ok s) (hu : s.fault? = some u) :
    p.get? u.position = some u.side.instruction := by
  obtain ⟨k, -, t, ht, hstep⟩ := (fault?_eq_some_iff h).mp hu
  obtain ⟨-, ⟨side, hstray, -, rfl⟩, -⟩ := (step_eq_faulted_iff (valid_of_after ht)).mp hstep
  exact hstray.bracket

end State

/-! ### Reports -/

namespace Command

open Text

theorem oneLine_map_toChar (l : List Instruction) : OneLine (l.map Instruction.toChar) := by
  have hchar : ∀ x : Instruction, x.toChar ≠ '\n' ∧ x.toChar ≠ '\r' := by
    intro x
    cases x <;> decide
  constructor
  · intro h
    obtain ⟨x, -, hx⟩ := List.mem_map.mp h
    exact (hchar x).1 hx
  · intro h
    obtain ⟨x, -, hx⟩ := List.mem_map.mp h
    exact (hchar x).2 hx

/-- What a report of a fault says above the excerpt. -/
def faultLine (name : String) (u : Unmatched) : String :=
  s!"{name}: Runtime error: unmatched bracket {u.side.quoted} at instruction {u.position}"

/-- What a report of a fault shows below: the excerpt and the caret. -/
def faultMark (p : Program) (u : Unmatched) : List (List Char) :=
  ["  ".toList ++ (p.excerpt u.position).slice, "  ".toList ++ (p.excerpt u.position).caret]

theorem toList_faultReport (name : String) (p : Program) (u : Unmatched) :
    (faultReport name p u).toList =
      (faultLine name u).toList ++ '\n' :: (faultMark p u).flatMap (· ++ ['\n']) := by
  have hnewline : (toString "\n").toList = ['\n'] := rfl
  have hbetween : (toString "\n  ").toList = '\n' :: "  ".toList := rfl
  have htext : ∀ l : List Char, (toString (String.ofList l)).toList = l := fun _ =>
    String.toList_ofList
  simp only [faultReport, faultMark, faultLine, String.toList_append, List.flatMap_cons,
    List.flatMap_nil, List.append_nil, List.append_assoc, hnewline, hbetween, htext,
    List.cons_append, List.nil_append]
  rfl

theorem oneLine_faultLine {name : String} (h : OneLine name.toList) (u : Unmatched) :
    OneLine (faultLine name u).toList := by
  have hquoted : OneLine u.side.quoted.toList := by
    cases u.side <;> decide
  simp only [faultLine, String.toList_append, oneLine_append]
  exact ⟨⟨⟨⟨h, by decide⟩, hquoted⟩, by decide⟩, oneLine_repr _⟩

theorem oneLine_of_mem_faultMark {p : Program} {u : Unmatched} :
    ∀ l ∈ faultMark p u, OneLine l := by
  have hslice : OneLine (p.excerpt u.position).slice := oneLine_map_toChar _
  have hcaret : OneLine (p.excerpt u.position).caret := by
    rw [Program.excerpt, oneLine_append]
    exact ⟨oneLine_blanks _, by decide⟩
  intro l hl
  simp only [faultMark, List.mem_cons, List.not_mem_nil, or_false] at hl
  rcases hl with rfl | rfl
  · exact oneLine_append.mpr ⟨by decide, hslice⟩
  · exact oneLine_append.mpr ⟨by decide, hcaret⟩

/-- **A report of a fault ends with two lines** below what it says. -/
theorem lines_faultReport (name : String) (p : Program) (u : Unmatched) :
    lines (faultReport name p u).toList =
      lines ((faultLine name u).toList ++ ['\n']) ++ faultMark p u := by
  rw [toList_faultReport, lines_append_newline_append,
    lines_flatMap_newline oneLine_of_mem_faultMark]

/-- What it says is one line, if the name of the program is. -/
theorem lines_faultLine {name : String} (h : OneLine name.toList) (u : Unmatched) :
    lines ((faultLine name u).toList ++ ['\n']) = [(faultLine name u).toList] := by
  have hline := oneLine_faultLine h u
  rw [lines_append_newline hline.1, hline.dropReturn_eq]
  rfl

/-- **The caret marks the offending bracket.**  The excerpt around a position of a program is the
slice of its instruction characters from 32 before the position to 32 behind it, as far as the
program reaches; its ends never cross, it can be put together whenever the program fits in memory,
and the caret stands below the character of the instruction at the position.  A run that faults, on
any machine, faults at a position of its program, and the report of the fault, in whatever name it
is given, has the character of the bracket above its caret. -/
theorem caret_marks_the_offender (p : Program) :
    (∀ i < p.length,
      sliceList p.chars (i - 32) (min (i + 33) p.length) = .ok (p.excerpt i).slice ∧
      (p.length ≤ longestLength → p.checkedExcerpt i = .ok (p.excerpt i)) ∧
      ∃ c < (p.excerpt i).slice.length, (p.excerpt i).caret = List.replicate c ' ' ++ ['^'] ∧
        (p.excerpt i).slice[c]? = (p.get? i).map Instruction.toChar) ∧
    ∀ m n s u, (State.start p m).after p n = .ok s → s.fault? = some u →
      u.position < p.length ∧ ∀ name,
        (∃ shown c, lines (faultReport name p u).toList =
            lines ((faultLine name u).toList ++ ['\n']) ++ [shown, List.replicate c ' ' ++ ['^']] ∧
          shown[c]? = some u.side.toChar) ∧
        (OneLine name.toList →
          lines ((faultLine name u).toList ++ ['\n']) = [(faultLine name u).toList]) := by
  refine ⟨?_, ?_⟩
  · intro i hi
    refine ⟨Program.sliceList_excerpt hi, Program.checkedExcerpt_of_lt hi, i - (i - 32), ?_,
      Program.excerpt_caret hi, Program.getElem?_excerpt_slice hi⟩
    rw [Program.length_excerpt_slice hi]
    omega
  · intro m n s u hs hu
    have hget := State.get?_of_fault? hs hu
    have hlt := Program.lt_length_of_get? hget
    refine ⟨hlt, fun name => ⟨⟨"  ".toList ++ (p.excerpt u.position).slice,
      u.position - (u.position - 32) + 2, ?_, ?_⟩, fun h => lines_faultLine h u⟩⟩
    · -- both lines are moved to the right by two blanks
      have hindent : ∀ c, "  ".toList ++ (List.replicate c ' ' ++ ['^']) =
          List.replicate (c + 2) ' ' ++ ['^'] := fun _ => rfl
      rw [lines_faultReport, faultMark, Program.excerpt_caret hlt, hindent]
    · have hindent : ∀ (l : List Char) (c : Nat), ("  ".toList ++ l)[c + 2]? = l[c]? :=
        fun _ _ => rfl
      rw [hindent, Program.getElem?_excerpt_slice hlt, hget]
      rfl

end Command

end TapeMachine
