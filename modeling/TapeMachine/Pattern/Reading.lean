/-
**Reading a pattern.**

A pattern is read from the left, with the groups around the place that was reached on a stack.  A
text is no pattern when a sign stands where it has nothing to act on, when a bracket has no partner,
when a part is not accepted in its mode, or when its parts are nested too deep.  Counts of a
repetition stand between braces; a brace that opens one is not accepted.

A pattern may ask for the boundary of a word, which can only be told by the properties of the
characters around it.  Outside of patterns about bytes that is reported apart.

Main definitions:

* `TapeMachine.Pattern.Problem`, `TapeMachine.Pattern.problem?` — what is wrong with a pattern;
* `TapeMachine.Pattern.Body`, `TapeMachine.Pattern.Reader` — what was read of a group, and of a
  pattern.
-/

import TapeMachine.Pattern.Bracketed
import TapeMachine.Text.Alphanumeric

set_option relaxedAutoImplicit false
set_option autoImplicit false

namespace TapeMachine.Pattern

open Text

/-- What is wrong with a pattern. -/
inductive Problem where
  /-- It cannot be read. -/
  | malformed
  /-- It asks for the boundary of a word of Unicode. -/
  | wordBoundary
deriving DecidableEq

/-- The report of a problem. -/
def Problem.message : Problem → String
  | malformed => "error building NFA"
  | wordBoundary =>
    "unsupported regex feature for DFAs: cannot build DFAs for regexes with Unicode word " ++
      "boundaries; switch to ASCII word boundaries, or heuristically enable Unicode word " ++
      "boundaries or use a different regex engine"

/-! ### Groups -/

/-- What was read of a group that is not closed, or of the whole pattern. -/
structure Body where
  /-- How deep the deepest of the choices before the last bar is nested, if there is a bar. -/
  choices : Option Nat
  /-- The parts since then. -/
  row : Row
  /-- How deep the last part is nested, if it can be repeated. -/
  last : Option Nat
deriving DecidableEq

namespace Body

/-- Nothing was read. -/
def empty : Body := ⟨none, Row.empty, none⟩

/-- One more part. -/
def add (b : Body) (depth : Nat) : Body :=
  { b with row := b.row.add depth, last := some depth }

/-- Switches stand in a row like a part, and cannot be repeated. -/
def addSwitches (b : Body) : Body := { b with row := b.row.add 0, last := none }

/-- The last part is repeated. -/
def repeated? (b : Body) : Option Body :=
  b.last.map fun depth => { b with row := b.row.deepen (depth + 1), last := some (depth + 1) }

/-- A bar has come. -/
def bar (b : Body) : Body :=
  ⟨some (max (b.choices.getD 0) b.row.nesting), Row.empty, none⟩

/-- How deep what was read is nested. -/
def nesting (b : Body) : Nat :=
  match b.choices with
  | none => b.row.nesting
  | some depth => max depth b.row.nesting + 1

end Body

/-- What was read of a pattern. -/
structure Reader where
  /-- How the next part is read. -/
  mode : Mode
  /-- The innermost group that is open. -/
  body : Body
  /-- The groups around it, with their modes, from the inside. -/
  outer : List (Mode × Body)
  /-- The names of groups that have come. -/
  names : List (List Char)
  /-- The boundary of a word of Unicode was asked for. -/
  boundary : Bool

namespace Reader

/-- Nothing was read. -/
def start : Reader := ⟨Mode.standard, Body.empty, [], [], false⟩

/-- One more part in the innermost group. -/
def add (r : Reader) (depth : Nat) : Reader := { r with body := r.body.add depth }

/-- A group is opened, in which another mode may hold. -/
def openGroup (r : Reader) (mode : Mode) : Reader :=
  { r with mode := mode, body := Body.empty, outer := (r.mode, r.body) :: r.outer }

/-- The innermost group is closed. -/
def closeGroup? (r : Reader) : Option Reader :=
  match r.outer with
  | [] => none
  | (mode, body) :: outer =>
    some { r with mode := mode, body := body.add (r.body.nesting + 1), outer := outer }

/-- One more atom in the innermost group. -/
def addAtom? (r : Reader) (a : Atom) : Option Reader :=
  if a.isAllowed r.mode then
    some { r.add 0 with boundary := r.boundary || (a = .boundary && r.mode.wide) }
  else none

/-! ### Beginnings of groups -/

/-- The name of a group may hold this character. -/
def canName (c : Char) : Bool :=
  c = '_' || c = '.' || c = '[' || c = ']' || isAlphanumeric c

/-- A text is the name of a group. -/
def isName : List Char → Bool
  | [] => false
  | c :: t => (c = '_' || isAlphabetic c) && t.all canName

/-- A group with a name is opened, whose name begins the text. -/
def openNamed (r : Reader) (t : List Char) : Option (Reader × List Char) :=
  let name := t.takeWhile (· ≠ '>')
  match t.dropWhile (· ≠ '>') with
  | [] => none
  | _ :: rest =>
    if isName name && !r.names.contains name then
      some ({ r.openGroup r.mode with names := name :: r.names }, rest)
    else none

/-- A group with switches is opened, or they change the mode of the innermost one. -/
def openSwitched (r : Reader) (t : List Char) : Option (Reader × List Char) :=
  match readSwitches r.mode [] t with
  | none => none
  | some s =>
    if s.mark = ':' then some (r.openGroup s.mode, s.rest)
    else if s.areNone then none
    else some ({ r with mode := s.mode, body := r.body.addSwitches }, s.rest)

/-- The text behind an opening parenthesis begins a group.  A group cannot look ahead or back. -/
def readGroup (r : Reader) (t : List Char) : Option (Reader × List Char) :=
  match r.mode.skipBlanks t with
  | '?' :: '=' :: _ | '?' :: '!' :: _ | '?' :: '<' :: '=' :: _ | '?' :: '<' :: '!' :: _ => none
  | '?' :: 'P' :: '<' :: t | '?' :: '<' :: t => r.openNamed t
  | '?' :: t => r.openSwitched t
  | t => some (r.openGroup r.mode, t)

/-! ### Parts -/

/-- The last part is repeated; a question mark right behind the sign belongs to it. -/
def readRepetition (r : Reader) (t : List Char) : Option (Reader × List Char) :=
  r.body.repeated?.map fun body =>
    ({ r with body := body }, if t.head? = some '?' then t.tail else t)

/-- The part that begins with the given character, and what follows it. -/
def readPart (r : Reader) (c : Char) (t : List Char) : Option (Reader × List Char) :=
  match c with
  | '(' => r.readGroup t
  | ')' => r.closeGroup?.map fun r => (r, t)
  | '|' => some ({ r with body := r.body.bar }, t)
  | '[' => (readClass r.mode t).map fun (depth, rest) => (r.add depth, rest)
  | '?' | '*' | '+' => r.readRepetition t
  | '\x7b' => none
  | '.' => if r.mode.wide then some (r.add 0, t) else none
  | '^' | '$' => some (r.add 0, t)
  | c =>
    match readAtom r.mode (c :: t) with
    | none => none
    | some (a, rest) => (r.addAtom? a).map fun r => (r, rest)

/-- The pattern that is being read, through at most `fuel` parts. -/
def readParts : Nat → Reader → List Char → Option Reader
  | 0, _, _ => none
  | fuel + 1, r, t =>
    match r.mode.skipBlanks t with
    | [] => some r
    | c :: rest =>
      match r.readPart c rest with
      | none => none
      | some (r, rest) => readParts fuel r rest

end Reader

/-! ### Patterns -/

/-- Parts may be nested this deep. -/
def maxNesting : Nat := 250

/-- What is wrong with a text as a pattern.  Every part takes a character, so there are no more of
them than characters. -/
def problem? (t : List Char) : Option Problem :=
  match Reader.start.readParts (t.length + 1) t with
  | none => some .malformed
  | some r =>
    if r.outer.isEmpty && r.body.nesting ≤ maxNesting then
      if r.boundary then some .wordBoundary else none
    else some .malformed

end TapeMachine.Pattern
