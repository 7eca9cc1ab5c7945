/-
**Columns.**

Texts are put into columns by filling them up with spaces; a text that is too long for its column
is left alone.

Main definitions:

* `TapeMachine.Text.padLeft`, `TapeMachine.Text.padRight` — a text at the right or at the left of
  its column.

Main results:

* `TapeMachine.Text.length_padLeft` — the column is filled.
-/

set_option relaxedAutoImplicit false
set_option autoImplicit false

namespace TapeMachine.Text

/-- A text at the right of a column. -/
def padLeft (width : Nat) (t : List Char) : List Char :=
  List.replicate (width - t.length) ' ' ++ t

/-- A text at the left of a column. -/
def padRight (width : Nat) (t : List Char) : List Char :=
  t ++ List.replicate (width - t.length) ' '

/-- The decimal digits of a number. -/
def decimal (n : Nat) : List Char := (toString n).toList

theorem length_padLeft (width : Nat) (t : List Char) :
    (padLeft width t).length = max width t.length := by
  simp only [padLeft, List.length_append, List.length_replicate]
  omega

end TapeMachine.Text
