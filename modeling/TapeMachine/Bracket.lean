/-
**Brackets and their partners.**

A loop is enclosed by two brackets.  The partner of a bracket is found by a scan that starts beside
it and counts the loops it enters: a bracket of the same side deepens the nesting, one of the other
side leaves a loop, and the first that leaves the loop the scan started in is the partner.  Nothing
is computed in advance, so a bracket without a partner is no obstacle to the rest of the program.

Main definitions:

* `TapeMachine.Side`, `TapeMachine.Direction` — the side of a loop that a bracket marks, and the
  direction in which its partner lies;
* `TapeMachine.Unmatched` — the report of a scan that left the program;
* `TapeMachine.Program.partner` — the scan, from any position and in either direction;
* `TapeMachine.Program.checkedPartner` — the same, from a position of 64 bits.

Main results:

* `TapeMachine.Program.lt_length_of_scanRight`, `TapeMachine.Program.lt_length_of_scanLeft` — a
  scan only ever answers with a position of the program.
-/

import TapeMachine.Program
import TapeMachine.Word

set_option relaxedAutoImplicit false
set_option autoImplicit false

namespace TapeMachine

/-- The side of a loop that a bracket marks. -/
inductive Side where
  | opening
  | closing
deriving DecidableEq, Inhabited

/-- The direction of a scan along the program. -/
inductive Direction where
  | forward
  | backward
deriving DecidableEq, Inhabited

namespace Side

/-- The bracket that marks a side. -/
def instruction : Side → Instruction
  | opening => .opening
  | closing => .closing

/-- The character of the bracket. -/
def toChar (s : Side) : Char := s.instruction.toChar

/-- The bracket between single quotes, as reports show it. -/
def quoted (s : Side) : String := String.ofList ['\'', s.toChar, '\'']

/-- The direction in which the partner of a bracket lies. -/
def direction : Side → Direction
  | opening => .forward
  | closing => .backward

/-- The side that an instruction marks, if it is a bracket. -/
def ofInstruction? : Instruction → Option Side
  | .opening => some opening
  | .closing => some closing
  | _ => none

end Side

/-- The side from which a scan in this direction sets out. -/
def Direction.side : Direction → Side
  | forward => .opening
  | backward => .closing

/-- A scan that found no partner: where it set out, and from which side of a loop. -/
structure Unmatched where
  /-- The position the scan set out from. -/
  position : Nat
  /-- The side whose partner was sought. -/
  side : Side
deriving DecidableEq, Inhabited

/-- The report of an unmatched bracket. -/
def Unmatched.message (u : Unmatched) : String :=
  s!"Unmatched bracket {u.side.quoted} at instruction {u.position}"

namespace Program

/-! ### The scan -/

/-- The first position from `i` on that leaves the loop the scan is in, `depth` being the number of
loops entered on the way and not yet left. -/
def scanRight (p : Program) (depth i : Nat) : Option Nat :=
  if _h : i < p.length then
    match p.get? i with
    | some .opening => p.scanRight (depth + 1) (i + 1)
    | some .closing => if depth = 0 then some i else p.scanRight (depth - 1) (i + 1)
    | _ => p.scanRight depth (i + 1)
  else none
termination_by p.length - i

/-- The last position before `i` that leaves the loop the scan is in, `depth` being the number of
loops entered on the way and not yet left.  A scan that sets out beyond the end of the program
finds nothing. -/
def scanLeft (p : Program) (depth : Nat) : Nat → Option Nat
  | 0 => none
  | i + 1 =>
    match p.get? i with
    | none => none
    | some .closing => p.scanLeft (depth + 1) i
    | some .opening => if depth = 0 then some i else p.scanLeft (depth - 1) i
    | some _ => p.scanLeft depth i

/-- The partner of the bracket at `position`, sought in the given direction.  The position need not
hold a bracket, nor lie inside the program. -/
def partner (p : Program) (position : Nat) (direction : Direction) : Except Unmatched Nat :=
  let found := match direction with
    | .forward => p.scanRight 0 (position + 1)
    | .backward => p.scanLeft 0 position
  match found with
  | some i => .ok i
  | none => .error ⟨position, direction.side⟩

/-- The partner of the bracket at `position`, if the scan can set out: a scan to the right begins at
the next position, which has to have 64 bits. -/
def checkedPartner (p : Program) (position : Nat) (direction : Direction) :
    Except Breach (Except Unmatched Nat) :=
  match direction with
  | .forward => (checkedSum position 1).map fun _ => p.partner position direction
  | .backward => .ok (p.partner position direction)

/-- Every bracket of a program with its position and its side, in order. -/
def brackets (p : Program) : List (Nat × Side) :=
  (List.range p.length).filterMap fun i =>
    ((p.get? i).bind Side.ofInstruction?).map fun side => (i, side)

theorem checkedPartner_of_lt {p : Program} {i : Nat} {d : Direction} (h : i + 1 < Text.word64) :
    p.checkedPartner i d = .ok (p.partner i d) := by
  cases d with
  | forward => simp [checkedPartner, checkedSum_of_lt h, Except.map]
  | backward => rfl

theorem lt_length_of_scanRight {p : Program} {depth i j : Nat}
    (h : p.scanRight depth i = some j) : j < p.length := by
  fun_induction scanRight p depth i with
  | case1 depth i hi hg ih => exact ih h
  | case2 i hi hg =>
      cases h
      exact hi
  | case3 depth i hi hg hd ih => exact ih h
  | case4 depth i hi h₁ h₂ ih => exact ih h
  | case5 depth i hi => cases h

theorem lt_length_of_scanLeft {p : Program} {depth i j : Nat}
    (h : p.scanLeft depth i = some j) : j < p.length := by
  have hget : ∀ {k : Nat} {x : Instruction}, p.get? k = some x → k < p.length := by
    intro k x hk
    exact (Array.getElem?_eq_some_iff.mp hk).1
  fun_induction scanLeft p depth i with
  | case1 depth => cases h
  | case2 depth i hg => cases h
  | case3 depth i hg ih => exact ih h
  | case4 i hg =>
      cases h
      exact hget hg
  | case5 depth i hg hd ih => exact ih h
  | case6 depth i x hx h₁ h₂ ih => exact ih h

/-- **A partner is a position of the program**, from wherever the scan set out. -/
theorem lt_length_of_partner {p : Program} {i j : Nat} {d : Direction}
    (h : p.partner i d = .ok j) : j < p.length := by
  unfold partner at h
  cases d <;> dsimp only at h <;> split at h <;> cases h
  · exact lt_length_of_scanRight ‹_›
  · exact lt_length_of_scanLeft ‹_›

end Program

end TapeMachine
