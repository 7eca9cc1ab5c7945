/-
**Showing cells and events.**

The value of a cell is shown as eight bits or as a character, an event as a line of the log, and
the tape through a window that reaches from the lowest cell visited to the highest, and always over
a least number of cells.

Main definitions:

* `TapeMachine.Display` — bits or characters;
* `TapeMachine.cellBits`, `TapeMachine.cellAscii`, `TapeMachine.Event.line` — the texts;
* `TapeMachine.State.window`, `TapeMachine.State.windowCells` — the cells that are shown.

Main results:

* `TapeMachine.length_cellBits` — the bits of a cell take nine columns.
-/

import TapeMachine.State
import TapeMachine.Text.Pad

set_option relaxedAutoImplicit false
set_option autoImplicit false

namespace TapeMachine

open Text

/-- How the values of cells are shown. -/
inductive Display where
  | binary
  | ascii
deriving DecidableEq, Inhabited

/-- The other way of showing values. -/
def Display.toggle : Display → Display
  | binary => ascii
  | ascii => binary

/-- A digit that tells whether the bit of weight `weight` is set. -/
def bit (n weight : Nat) : Char := if n / weight % 2 = 1 then '1' else '0'

/-- Eight bits in two groups of four. -/
def cellBits (value : UInt8) : List Char :=
  let n := value.toNat
  [128, 64, 32, 16].map (bit n) ++ ' ' :: [8, 4, 2, 1].map (bit n)

/-- A byte as two hexadecimal digits in capitals, behind a backslash and an `x`. -/
def hexEscape (value : UInt8) : List Char :=
  ['\\', 'x', (Nat.digitChar (value.toNat / 16)).toUpper,
    (Nat.digitChar (value.toNat % 16)).toUpper]

/-- A printable character between single quotes; other values as escapes. -/
def cellAscii (value : UInt8) : List Char :=
  let n := value.toNat
  if 0x20 ≤ n ∧ n ≤ 0x7E then ['\'', Char.ofNat n, '\'']
  else if n = 0x0A then ['\\', 'n']
  else if n = 0x0D then ['\\', 'r']
  else if n = 0x09 then ['\\', 't']
  else hexEscape value

/-- The line that shows an event. -/
def Event.line (display : Display) : Event → List Char
  | value v =>
    match display with
    | .binary => (value v).text.toList
    | .ascii => ':' :: ' ' :: padLeft 3 (decimal v.toNat) ++ ' ' :: ' ' :: cellAscii v
  | error u => (error u).text.toList

namespace State

/-- The window over the tape always has at least this many cells, as far as the tape has them. -/
def minWindow : Nat := 30

/-- The first and the last cell of the window over the tape. -/
def window (s : State) : Nat × Nat :=
  (s.lowest, min (max s.highest (minWindow - 1)) (s.tape.capacity - 1))

/-- The cells in the window over the tape. -/
def windowCells (s : State) : List Nat :=
  let (first, last) := s.window
  (List.range (last + 1 - first)).map (first + ·)

/-- How a run that is no longer driven has come to rest. -/
def restMessage (s : State) : String :=
  match s.fault? with
  | some u => s!"Halted: {u.message}"
  | none => if s.done then "Done" else "Paused"

end State

/-- **The bits of a cell take nine columns.** -/
theorem length_cellBits (value : UInt8) : (cellBits value).length = 9 := rfl

end TapeMachine
