/-
**Filters for diagnostics.**

A filter is a list of directives between commas.  A directive gives the level up to which records
are admitted: those of every part of the program, or those of one part, whose name comes in front of
an equals sign.  A part without a level is admitted at every level.  Between square brackets behind
the name, or in place of it, a directive may ask for records within a span, and between braces
inside of them for records with a field.

The value of a field is a number or a pattern.

Of the directives for a record the one that names its part most closely decides, then one that asks
for a field, and of equal ones the last.  A text between commas that is no directive is passed over
and reported.

Main definitions:

* `TapeMachine.Log.Directive`, `TapeMachine.Log.Directive.read` — one directive, and the one that a
  text describes;
* `TapeMachine.Log.Filter`, `TapeMachine.Log.Filter.read` — a filter, and the one that a text
  describes;
* `TapeMachine.Log.Filter.remarks`, `TapeMachine.Log.Filter.breach?` — the report of the texts that
  are passed over, and whether there is one that breaks everything off;
* `TapeMachine.Log.Library.standard` — the library that reads texts so.

Main results:

* `TapeMachine.Log.Library.level_of_admits_standard` — when no diagnostics are described, only
  errors are admitted.
-/

import TapeMachine.Command.Log
import TapeMachine.Pattern.Reading
import TapeMachine.Text.Alphanumeric
import TapeMachine.Text.Blank
import TapeMachine.Text.Numeral
import TapeMachine.Text.Split
import TapeMachine.Text.Utf8

set_option relaxedAutoImplicit false
set_option autoImplicit false

namespace TapeMachine.Log

open Text

/-- The rank of a level; the most severe has rank one. -/
def Level.rank : Level → Nat
  | error => 1
  | warn => 2
  | info => 3
  | debug => 4
  | trace => 5

/-- The rank that a word describes: a numeral up to five, or the name of a level in small or capital
letters.  Rank zero admits nothing. -/
def rankOf? (word : List Char) : Option Nat :=
  match readNat word64 word with
  | .ok n => if n ≤ Level.trace.rank then some n else none
  | .error _ =>
    match String.ofList (word.map Char.toLower) with
    | "off" => some 0
    | "error" => some Level.error.rank
    | "warn" => some Level.warn.rank
    | "info" => some Level.info.rank
    | "debug" => some Level.debug.rank
    | "trace" => some Level.trace.rank
    | _ => none

/-! ### Directives -/

/-- Which records of a part of the program a directive is about. -/
inductive Scope where
  /-- All of them. -/
  | all
  /-- Those with a field of this name. -/
  | withField (name : List Char)
  /-- Those within a span.  No part of this program has spans. -/
  | withinSpan
deriving DecidableEq

/-- Up to which rank records are admitted. -/
structure Directive where
  /-- The beginning of the names of the parts of the program that are meant, if not all are. -/
  target : Option (List Char)
  /-- The records that are meant. -/
  scope : Scope
  /-- The largest rank that is admitted; zero admits nothing. -/
  rank : Nat
deriving DecidableEq

/-- Why a text is no directive. -/
inductive DirectiveProblem where
  /-- It does not have the form of one. -/
  | malformed
  /-- The value of a field is no pattern. -/
  | noPattern (problem : Pattern.Problem)
  /-- What follows the equals sign is no level. -/
  | noLevel
  /-- It cannot be cut into its parts. -/
  | broken (breach : Breach)
deriving DecidableEq

/-- The report of a text that is no directive. -/
def DirectiveProblem.message : DirectiveProblem → String
  | malformed => "invalid filter directive"
  | noPattern problem => "invalid field filter: " ++ problem.message
  | noLevel =>
    "error parsing level filter: expected one of \"off\", \"error\", \"warn\", \"info\", " ++
      "\"debug\", \"trace\", or a number 0-5"
  | broken breach => breach.message

/-- The broken contract in a problem, if there is one. -/
def DirectiveProblem.breach? : DirectiveProblem → Option Breach
  | broken breach => some breach
  | malformed | noPattern _ | noLevel => none

namespace Directive

/-! The delimiters of a directive are sought in its text without the blanks at the ends.  What
stands between them is cut from the text with the blanks, by the same offsets in bytes. -/

/-- The name of a part can begin with this character. -/
def canBegin (c : Char) : Bool := c = '-' || c = ':' || c = '_' || isAlphanumeric c

/-- The position of the first character from `start` on that is one of the delimiters. -/
def seek (delimiters core : List Char) (start : Nat) : Nat :=
  start + ((core.drop start).takeWhile fun c => !delimiters.contains c).length

/-- The text from the offset of the given character of `core` on. -/
def cutFrom (text core : List Char) (start : Nat) : Except DirectiveProblem (List Char) :=
  match splitBytes (byteOffset core start) text with
  | .ok (_, rest) => .ok rest
  | .error b => .error (.broken b)

/-- The text between the offsets of two characters of `core`. -/
def cut (text core : List Char) (start stop : Nat) : Except DirectiveProblem (List Char) :=
  match cutFrom text core start with
  | .error e => .error e
  | .ok rest =>
    match splitBytes (byteOffset core stop - byteOffset core start) rest with
    | .ok (piece, _) => .ok piece
    | .error b => .error (.broken b)

/-- The directive without an equals sign or a bracket: a level for every part, or else a part. -/
def ofWord (word : List Char) : Directive :=
  match rankOf? word with
  | some rank => ⟨none, .all, rank⟩
  | none => ⟨some word, .all, Level.trace.rank⟩

/-- The directive with the level that follows the equals sign; every level is admitted if none
follows. -/
def ofLevel (target : Option (List Char)) (scope : Scope) (level : List Char) :
    Except DirectiveProblem Directive :=
  if level.isEmpty then .ok ⟨target, scope, Level.trace.rank⟩
  else
    match rankOf? level with
    | some rank => .ok ⟨target, scope, rank⟩
    | none => .error .noLevel

/-- The directive whose brackets are closed before `start`. -/
def readEnd (text core : List Char) (target : Option (List Char)) (scope : Scope) (start : Nat) :
    Except DirectiveProblem Directive :=
  match core.drop start with
  | [] => .ok ⟨target, scope, Level.trace.rank⟩
  | '=' :: _ => do ofLevel target scope (← cutFrom text core (start + 1))
  | _ => .error .malformed

/-- What is wrong with the value of a field, which stands behind an equals sign and in front of the
next one.  It has to be a number or else a pattern. -/
def valueProblem? (field : List Char) : Option Pattern.Problem :=
  match split '=' field with
  | _ :: value :: _ => if isReal value then none else Pattern.problem? value
  | _ => none

/-- The directive with a field from `start` on.  A field with a value, or one of a span that has a
name, is about spans. -/
def readField (text core : List Char) (target : Option (List Char)) (named : Bool) (start : Nat) :
    Except DirectiveProblem Directive :=
  let stop := seek ['\x7d'] core start
  match core.drop stop with
  | [] => .error .malformed
  | _ :: behind => do
    let field ← cut text core start stop
    let scope := if named || field.contains '=' then .withinSpan else .withField field
    if field.isEmpty then .error .malformed
    else
      match valueProblem? field with
      | some problem => .error (.noPattern problem)
      | none =>
        if behind.head? = some ']' then readEnd text core target scope (stop + 2)
        else .error .malformed

/-- The directive with a span from `start` on. -/
def readSpan (text core : List Char) (target : Option (List Char)) (start : Nat) :
    Except DirectiveProblem Directive :=
  let stop := seek [']', '\x7b'] core start
  match core.drop stop with
  | [] => .error .malformed
  | c :: _ => do
    let name ← cut text core start stop
    if c = ']' then readEnd text core target .withinSpan (stop + 1)
    else readField text core target (!name.isEmpty) (stop + 1)

/-- The directive that a text describes. -/
def read (text : List Char) : Except DirectiveProblem Directive :=
  let core := trim text
  match core with
  | [] => .error .malformed
  | '[' :: _ => readSpan text core none 1
  | c :: _ =>
    if canBegin c then
      let stop := seek ['=', '['] core 0
      match core.drop stop with
      | [] => .ok (ofWord text)
      | delimiter :: _ => do
        let target ← cut text core 0 stop
        if delimiter = '=' then ofLevel (some target) .all (← cutFrom text core (stop + 1))
        else readSpan text core (some target) (stop + 1)
    else .error .malformed

/-- A directive is about the records of a kind. -/
def covers (d : Directive) (k : Kind) : Bool :=
  (match d.target with
    | none => true
    | some start => start.isPrefixOf k.part.toList) &&
  (match d.scope with
    | .all => true
    | .withField name => k.fields.contains (String.ofList name)
    | .withinSpan => false)

/-- How closely a directive names the parts that it is meant for. -/
def closeness (d : Directive) : Nat := (d.target.map byteLength).getD 0

/-- Of two directives about the same records the second decides, and not the first.  Of two that ask
for different fields the one whose field comes later in the order of texts decides. -/
def yieldsTo (d e : Directive) : Bool :=
  if d.closeness = e.closeness then
    match d.scope, e.scope with
    | .withField a, .withField b => !decide (String.ofList b < String.ofList a)
    | .withField _, _ => false
    | _, _ => true
  else d.closeness < e.closeness

end Directive

/-! ### Filters -/

/-- The directives of a filter, in order. -/
structure Filter where
  /-- The directives. -/
  directives : List Directive
deriving DecidableEq

namespace Filter

/-- The filter when none is described: only errors are admitted. -/
def standard : Filter := ⟨[⟨none, .all, Level.error.rank⟩]⟩

/-- The texts between commas that are not empty. -/
def pieces (text : String) : List (List Char) :=
  (split ',' text.toList).filter (· ≠ [])

/-- The filter of the directives in a text; without one it is the standard filter. -/
def read (text : String) : Filter :=
  match (pieces text).filterMap fun piece => (Directive.read piece).toOption with
  | [] => standard
  | directives => ⟨directives⟩

/-- The report of the texts that are no directives, a line for each. -/
def remarks (text : String) : String :=
  String.join <| (pieces text).map fun piece =>
    match Directive.read piece with
    | .ok _ => ""
    | .error p => "ignoring `" ++ String.ofList piece ++ "`: " ++ p.message ++ "\n"

/-- The first text that cannot be cut into its parts breaks a contract. -/
def breach? (text : String) : Option Breach :=
  (pieces text).findSome? fun piece =>
    match Directive.read piece with
    | .ok _ => none
    | .error p => p.breach?

/-- The directive that decides on the records of a kind. -/
def deciding? (f : Filter) (k : Kind) : Option Directive :=
  (f.directives.filter (·.covers k)).foldl (fun found e =>
    match found with
    | none => some e
    | some d => if d.yieldsTo e then some e else some d) none

/-- The records of a kind are admitted. -/
def admits (f : Filter) (k : Kind) : Bool :=
  match f.deciding? k with
  | none => false
  | some d => k.level.rank ≤ d.rank

/-- The standard filter admits errors and nothing else. -/
theorem admits_standard_iff (k : Kind) : standard.admits k = true ↔ k.level = .error := by
  have hdeciding : standard.deciding? k = some ⟨none, .all, Level.error.rank⟩ := rfl
  rw [admits, hdeciding, decide_eq_true_eq]
  cases k.level <;> simp [Level.rank]

end Filter

/-- The filters of this module, as the library that writes diagnostics. -/
def Library.standard : Library where
  admits text k := (Filter.read text).admits k
  remarks := Filter.remarks
  breaks text := (Filter.breach? text).isSome

/-- **When no diagnostics are described, only errors are admitted.** -/
theorem Library.level_of_admits_standard {k : Kind} (h : standard.admits "" k = true) :
    k.level = .error := (Filter.admits_standard_iff k).mp h

end TapeMachine.Log
