/-
**Numbers of 64 bits.**

Positions, offsets and lengths are numbers of 64 bits, and no list in memory is longer than half of
them can count.  A sum or a length that is computed from a number that someone chose is checked.

Main definitions:

* `TapeMachine.checkedSum` — the sum of two numbers, if it has 64 bits;
* `TapeMachine.checkedLength` — a number, if it is the length of a list that fits in memory.
-/

import TapeMachine.Breach
import TapeMachine.Text.Numeral

set_option relaxedAutoImplicit false
set_option autoImplicit false

namespace TapeMachine

/-- The sum of two numbers, if it has 64 bits. -/
def checkedSum (a b : Nat) : Except Breach Nat :=
  if a + b < Text.word64 then .ok (a + b) else .error (.sumTooLarge a b)

/-- The length of the longest list that could be in memory, if its elements are bytes. -/
def longestLength : Nat := Text.word64 / 2 - 1

/-- A number, if a list of bytes of that length fits in memory. -/
def checkedLength (n : Nat) : Except Breach Nat :=
  if n ≤ longestLength then .ok n else .error (.lengthTooLarge n)

theorem checkedSum_of_lt {a b : Nat} (h : a + b < Text.word64) : checkedSum a b = .ok (a + b) := by
  simp [checkedSum, h]

theorem checkedLength_of_le {n : Nat} (h : n ≤ longestLength) : checkedLength n = .ok n := by
  simp [checkedLength, h]

end TapeMachine
