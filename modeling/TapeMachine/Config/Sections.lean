/-
**Sectioned assignments.**

A configuration text is a list of lines.  A line in square brackets opens a section, a line with an
equals sign assigns a value to a key of the open section, and the value may be written in double
quotes.  Blank lines, lines that begin with a number sign, and everything before the first section
are passed over; nothing is ever an error.  Of several assignments to one key the last one counts.

Main definitions:

* `TapeMachine.Config.Assignment`, `TapeMachine.Config.assignments` — the assignments of a text, in
  their order;
* `TapeMachine.Config.value?` — the value of a key.

Main results:

* `TapeMachine.Config.value?_append` — later assignments win.
-/

import TapeMachine.Text.Blank
import TapeMachine.Text.Lines

set_option relaxedAutoImplicit false
set_option autoImplicit false

namespace TapeMachine.Config

open Text

/-- A value assigned to a key of a section. -/
structure Assignment where
  /-- The section that was open. -/
  sectionName : List Char
  /-- The key. -/
  key : List Char
  /-- The value, without the quotes it may have been written in. -/
  value : List Char
deriving DecidableEq

/-- What a line says. -/
inductive Line where
  /-- A comment, or nothing. -/
  | silent
  /-- A section opens. -/
  | header (name : List Char)
  /-- A key is given a value. -/
  | entry (key value : List Char)
deriving DecidableEq

/-- What stands between a pair of double quotes around a value, or else the value. -/
def unquote (value : List Char) : List Char :=
  if value.head? = some '"' ∧ value.getLast? = some '"' ∧ 2 ≤ value.length then
    value.tail.dropLast
  else value

/-- What a line says once the blanks at its ends are removed. -/
def readTrimmed (line : List Char) : Line :=
  if line.isEmpty ∨ line.head? = some '#' then .silent
  else if line.head? = some '[' ∧ line.getLast? = some ']' then
    .header (trim line.tail.dropLast)
  else
    match line.dropWhile (· ≠ '=') with
    | [] => .silent
    | _ :: value => .entry (trim (line.takeWhile (· ≠ '='))) (unquote (trim value))

/-- What a line says. -/
def readLine (line : List Char) : Line := readTrimmed (trim line)

/-- The assignments of some lines, with the section that is open at the first of them. -/
def assignmentsOfLines : Option (List Char) → List (List Char) → List Assignment
  | _, [] => []
  | current, line :: rest =>
    match readLine line, current with
    | .header name, _ => assignmentsOfLines (some name) rest
    | .entry key value, some name => ⟨name, key, value⟩ :: assignmentsOfLines current rest
    | _, _ => assignmentsOfLines current rest

/-- The assignments of a configuration text, in their order. -/
def assignments (text : List Char) : List Assignment := assignmentsOfLines none (lines text)

/-- The value of a key: what was assigned to it last. -/
def value? (as : List Assignment) (sectionName key : List Char) : Option (List Char) :=
  (as.reverse.find? fun a => a.sectionName = sectionName ∧ a.key = key).map Assignment.value

/-- **Later assignments win.** -/
theorem value?_append (as bs : List Assignment) (s k : List Char) :
    value? (as ++ bs) s k = (value? bs s k).or (value? as s k) := by
  simp only [value?, List.reverse_append, List.find?_append]
  cases bs.reverse.find? fun a => a.sectionName = s ∧ a.key = k <;> rfl

end TapeMachine.Config
