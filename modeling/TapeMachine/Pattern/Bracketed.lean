/-
**Classes of characters.**

A class stands between square brackets.  Its members are characters, ranges of characters, families,
named sets of characters of ASCII, and other classes; a circumflex at the beginning means all the
characters that are no members.  Doubled signs combine what stands before and behind them: the
common members, those before without those behind, and those that only one side has.

At the beginning a minus sign stands for itself, and so does a closing bracket that comes first.

Main definitions:

* `TapeMachine.Pattern.Level` — what was read of a class;
* `TapeMachine.Pattern.readNamed` — the name of a set of characters;
* `TapeMachine.Pattern.readRange` — a character or a range of characters;
* `TapeMachine.Pattern.readClass` — a class, and how deep it is nested.
-/

import TapeMachine.Pattern.Escape

set_option relaxedAutoImplicit false
set_option autoImplicit false

namespace TapeMachine.Pattern

/-! ### Nesting -/

/-- Parts of a pattern that stand side by side. -/
structure Row where
  /-- The number of parts. -/
  count : Nat
  /-- How deep the deepest part is nested. -/
  depth : Nat
deriving DecidableEq

namespace Row

/-- The row without parts. -/
def empty : Row := ⟨0, 0⟩

/-- The row with one more part. -/
def add (r : Row) (depth : Nat) : Row := ⟨r.count + 1, max r.depth depth⟩

/-- The row after a part turned out to be nested this deep. -/
def deepen (r : Row) (depth : Nat) : Row := { r with depth := max r.depth depth }

/-- How deep a row is nested. -/
def nesting (r : Row) : Nat := if r.count ≤ 1 then r.depth else r.depth + 1

end Row

/-! ### Members -/

/-- The names of the sets of characters of ASCII. -/
def namedSets : List String :=
  ["alnum", "alpha", "ascii", "blank", "cntrl", "digit", "graph", "lower", "print", "punct",
    "space", "upper", "word", "xdigit"]

/-- The named set that the characters behind an opening bracket spell, if they do: whether the other
characters are meant, and what follows. -/
def readNamed : List Char → Option (Bool × List Char)
  | ':' :: t =>
    let negated := t.head? = some '^'
    let t := if negated then t.tail else t
    match t.dropWhile (· ≠ ':') with
    | ':' :: ']' :: rest =>
      if namedSets.contains (String.ofList (t.takeWhile (· ≠ ':'))) then some (negated, rest)
      else none
    | _ => none
  | _ => none

/-- The text behind the character or the range of characters that it begins with.  A minus sign in
front of a closing bracket or of another minus sign makes no range. -/
def readRange (m : Mode) (t : List Char) : Option (List Char) :=
  match readAtom m t with
  | none => none
  | some (first, t) =>
    let alone := if first.isAllowedMember m then some t else none
    match m.skipBlanks t with
    | '-' :: t =>
      if m.peek? t = some ']' ∨ m.peek? t = some '-' then alone
      else
        match readAtom m (m.skipBlanks t) with
        | none => none
        | some (last, t) =>
          match first.literal?, last.literal? with
          | some a, some b =>
            if a.code ≤ b.code && m.allowsMember a && m.allowsMember b then some t else none
          | _, _ => none
    | _ => alone

/-! ### Classes -/

/-- What was read of a class that is not closed. -/
structure Level where
  /-- All the characters that are no members are meant. -/
  negated : Bool
  /-- Nothing but minus signs has come. -/
  fresh : Bool
  /-- How deep what stands before the last doubled sign is nested, if one has come. -/
  left : Option Nat
  /-- The members since then. -/
  members : Row
deriving DecidableEq

namespace Level

/-- A class that was only opened. -/
def opened (negated : Bool) : Level := ⟨negated, true, none, Row.empty⟩

/-- The class with one more member. -/
def add (l : Level) (depth : Nat) : Level := { l with members := l.members.add depth }

/-- Something else than minus signs has come. -/
def settled (l : Level) : Level := { l with fresh := false }

/-- How deep what was read is nested. -/
def nesting (l : Level) : Nat :=
  match l.left with
  | none => l.members.nesting
  | some depth => max depth l.members.nesting + 1

/-- A doubled sign has come. -/
def combined (l : Level) : Level := { l with left := some l.nesting, members := Row.empty }

end Level

/-- How far the reading of a class has come. -/
inductive Progress where
  /-- The innermost class that is open, those around it, and what follows. -/
  | within (inner : Level) (outer : List Level) (rest : List Char)
  /-- The class is closed: how deep it is nested, and what follows. -/
  | closed (nesting : Nat) (rest : List Char)

/-- A class is opened, whose opening bracket stands before the text. -/
def openClass (m : Mode) (outer : List Level) (t : List Char) : Option Progress :=
  match m.skipBlanks t with
  | '^' :: rest => if m.wide then some (.within (Level.opened true) outer rest) else none
  | rest => some (.within (Level.opened false) outer rest)

/-- The innermost class is closed. -/
def closeClass (m : Mode) (inner : Level) (outer : List Level) (t : List Char) : Option Progress :=
  match outer with
  | [] => some (.closed (inner.nesting + 1) t)
  | level :: outer =>
    if m.wide && m.caseless && inner.negated then none
    else some (.within (level.add (inner.nesting + 1)) outer t)

/-- One more member of the innermost class begins with the given character. -/
def readMember (m : Mode) (inner : Level) (outer : List Level) (c : Char) (t : List Char) :
    Option Progress :=
  match c, t with
  | '[', t =>
    match readNamed t with
    | some (negated, rest) =>
      if m.allowsNamed negated then some (.within (inner.add 0) outer rest) else none
    | none => openClass m (inner :: outer) t
  | ']', t => closeClass m inner outer t
  | '&', '&' :: rest | '-', '-' :: rest | '~', '~' :: rest =>
    some (.within inner.combined outer rest)
  | c, t => (readRange m (c :: t)).map fun rest => .within (inner.add 0) outer rest

/-- A member that the class begins with, a minus sign or a closing bracket, or else any other. -/
def readFirst (m : Mode) (inner : Level) (outer : List Level) (c : Char) (t : List Char) :
    Option Progress :=
  let plain (next : Level) : Option Progress :=
    if m.allowsMember (Literal.ofChar c) then some (.within (next.add 0) outer t) else none
  if inner.fresh && c = '-' then plain inner
  else if inner.fresh && inner.members.count = 0 && c = ']' then plain inner.settled
  else readMember m inner.settled outer c t

/-- The class that is being read, through at most `fuel` members and signs. -/
def readLevels (m : Mode) : Nat → Level → List Level → List Char → Option (Nat × List Char)
  | 0, _, _, _ => none
  | fuel + 1, inner, outer, t =>
    match m.skipBlanks t with
    | [] => none
    | c :: rest =>
      match readFirst m inner outer c rest with
      | none => none
      | some (.closed nesting rest) => some (nesting, rest)
      | some (.within inner outer rest) => readLevels m fuel inner outer rest

/-- The class whose opening bracket stands before the text: how deep it is nested, and what follows
it.  Every member and every sign takes a character, so there are no more of them than characters. -/
def readClass (m : Mode) (t : List Char) : Option (Nat × List Char) :=
  match openClass m [] t with
  | some (.within inner outer rest) => readLevels m t.length inner outer rest
  | _ => none

end TapeMachine.Pattern
