/-
**Reading command line arguments.**

The words after the name of a command are options and operands.  An option is written with one
hyphen and a letter, and letters may be grouped behind one hyphen, or with two hyphens and a name.
The value of an option follows in the same word or is the next word, and it is only looked at once
it is known that nothing else belongs to the option: when the next option or operand is met, or the
words are at their end.  A word of two hyphens ends the options.

Main definitions:

* `TapeMachine.Command.Opt`, `TapeMachine.Command.Grammar` — an option, and what a command accepts;
* `TapeMachine.Command.ArgumentError` — why words are not accepted;
* `TapeMachine.Command.Grammar.read` — the reading.
-/

import TapeMachine.Text.Shown

set_option relaxedAutoImplicit false
set_option autoImplicit false

namespace TapeMachine.Command

/-- Why the value of an option is not accepted. -/
inductive Refusal where
  /-- The value does not count as one. -/
  | missing
  /-- The value has the wrong form. -/
  | invalid (reason : String)
deriving DecidableEq

/-- What an option does to the result of the reading. -/
inductive Action (σ : Type) where
  /-- The option stands for itself. -/
  | switch (set : σ → σ)
  /-- The option has a value, which usage texts call by a label. -/
  | value (label : String) (set : String → σ → Except Refusal σ)

/-- An option. -/
structure Opt (σ : Type) where
  /-- The letter behind one hyphen, if there is one. -/
  letter : Option Char
  /-- The name behind two hyphens. -/
  name : String
  /-- What the option does. -/
  action : Action σ

/-- An option as reports show it. -/
def Opt.shown {σ : Type} (o : Opt σ) : String :=
  match o.action with
  | .switch _ => "--" ++ o.name
  | .value label _ => s!"--{o.name} <{label}>"

/-- The operands that a command accepts. -/
inductive Operands (σ : Type) where
  /-- None. -/
  | none
  /-- At most one. -/
  | single (set : String → σ → σ)
  /-- Any number; every word from the first operand on is one, and a word with a hyphen that is not
  made of known options is an operand too. -/
  | trailing (add : String → σ → σ)

/-- What a command accepts. -/
structure Grammar (σ : Type) where
  /-- The options. -/
  options : List (Opt σ)
  /-- The operands. -/
  operands : Operands σ
  /-- The names of further commands, which end the words of this one. -/
  commands : List String

/-- Why words are not accepted. -/
inductive ArgumentError where
  /-- There is no such command. -/
  | unknownCommand (word : String)
  /-- There is no place for this word. -/
  | unexpected (word : String)
  /-- An option without a value was given one. -/
  | unexpectedValue (value option : String)
  /-- The value of an option has the wrong form. -/
  | invalidValue (value option reason : String)
  /-- An option has no value. -/
  | missingValue (option : String)
  /-- An option was given twice. -/
  | repeated (option : String)
deriving DecidableEq

/-- A word as reports quote it: as a terminal would show it. -/
def quotedWord (word : String) : String := String.ofList ('\'' :: Text.shown word.toList ++ ['\''])

/-- The report of words that are not accepted. -/
def ArgumentError.message : ArgumentError → String
  | unknownCommand word => s!"error: unrecognized subcommand {quotedWord word}"
  | unexpected word => s!"error: unexpected argument {quotedWord word} found"
  | unexpectedValue value option =>
    s!"error: unexpected value {quotedWord value} for '{option}' found; no more were expected"
  | invalidValue value option reason =>
    s!"error: invalid value {quotedWord value} for '{option}': {reason}"
  | missingValue option => s!"error: a value is required for '{option}' but none was supplied"
  | repeated option => s!"error: the argument '{option}' cannot be used multiple times"

/-- An option that was met and not looked at any further, with its value once that was met. -/
structure Pending (σ : Type) where
  /-- The option. -/
  option : Opt σ
  /-- Its value. -/
  value : Option String

/-- What has been read. -/
structure Reading (σ : Type) where
  /-- The result so far. -/
  result : σ
  /-- The names of the options that were given. -/
  given : List String
  /-- The option that was met last, until it is looked at. -/
  pending : Option (Pending σ)
  /-- The options are at their end. -/
  operandsOnly : Bool
  /-- An operand was met. -/
  hasOperand : Bool

variable {σ : Type}

namespace Reading

/-- Nothing has been read. -/
def start (init : σ) : Reading σ := ⟨init, [], none, false, false⟩

/-- The option met last is still without its value. -/
def awaitsValue (r : Reading σ) : Bool :=
  match r.pending with
  | some p => p.value.isNone
  | none => false

/-- An option is given, and counts from now on. -/
def give (r : Reading σ) (o : Opt σ) (result : σ) : Except ArgumentError (Reading σ) :=
  .ok { r with result := result, given := o.name :: r.given, pending := none }

/-- An option is given with a value. -/
def store (r : Reading σ) (o : Opt σ) (value : String) : Except ArgumentError (Reading σ) :=
  if r.given.contains o.name then .error (.repeated o.shown)
  else
    match o.action with
    | .switch set => r.give o (set r.result)
    | .value _ set =>
      match set value r.result with
      | .ok result => r.give o result
      | .error .missing => .error (.missingValue o.shown)
      | .error (.invalid reason) => .error (.invalidValue value o.shown reason)

/-- The option met last is looked at. -/
def resolve (r : Reading σ) : Except ArgumentError (Reading σ) :=
  match r.pending with
  | none => .ok r
  | some ⟨o, none⟩ => .error (.missingValue o.shown)
  | some ⟨o, some value⟩ => r.store o value

/-- An option is met, and the value that stands in the same word. -/
def meet (r : Reading σ) (o : Opt σ) (attached : Option String) :
    Except ArgumentError (Reading σ) := do
  let r ← r.resolve
  match o.action, attached with
  | .switch _, _ => r.store o ""
  | .value .., some value => r.store o value
  | .value .., none => return { r with pending := some ⟨o, none⟩ }

/-- The value of the option met last is met. -/
def supply (r : Reading σ) (word : String) : Reading σ :=
  { r with pending := r.pending.map fun p => { p with value := some word } }

end Reading

namespace Grammar

/-- The option with a letter. -/
def ofLetter? (g : Grammar σ) (c : Char) : Option (Opt σ) :=
  g.options.find? fun o => o.letter = some c

/-- The option with a name. -/
def ofName? (g : Grammar σ) (name : String) : Option (Opt σ) :=
  g.options.find? fun o => o.name = name

/-- Words that are not made of known options may be operands although they begin with a hyphen. -/
def takesHyphens (g : Grammar σ) : Bool :=
  match g.operands with
  | .trailing _ => true
  | _ => false

/-- An operand is met. -/
def readOperand (g : Grammar σ) (r : Reading σ) (word : String) :
    Except ArgumentError (Reading σ) :=
  match g.operands with
  | .none =>
    if r.operandsOnly && g.commands.contains word then .error (.unexpected word)
    else .error (.unknownCommand word)
  | .single set =>
    if r.hasOperand then .error (.unexpected word)
    else r.resolve.map fun r => { r with result := set word r.result, hasOperand := true }
  | .trailing add =>
    r.resolve.map fun r =>
      { r with result := add word r.result, hasOperand := true, operandsOnly := true }

/-- A word is met that is no option: the value of the option met last, or an operand. -/
def readPlain (g : Grammar σ) (r : Reading σ) (word : String) :
    Except ArgumentError (Reading σ) :=
  if r.awaitsValue then .ok (r.supply word) else g.readOperand r word

/-- A word with two hyphens is met; `body` is what follows them. -/
def readNamed (g : Grammar σ) (r : Reading σ) (word : String) (body : List Char) :
    Except ArgumentError (Reading σ) :=
  let name := String.ofList (body.takeWhile (· ≠ '='))
  let attached := match body.dropWhile (· ≠ '=') with
    | [] => none
    | _ :: value => some (String.ofList value)
  match g.ofName? name with
  | none => if g.takesHyphens then g.readPlain r word else .error (.unexpected ("--" ++ name))
  | some o =>
    match o.action, attached with
    | .switch _, some value => .error (.unexpectedValue value o.shown)
    | _, _ => r.meet o attached

/-- A group of letters behind one hyphen is met.  What follows the letter of an option with a value
is the value, an equals sign in front of it aside. -/
def readLetters (g : Grammar σ) : List Char → Reading σ → Except ArgumentError (Reading σ)
  | [], r => .ok r
  | c :: rest, r =>
    match g.ofLetter? c with
    | none => .error (.unexpected (String.ofList ['-', c]))
    | some o =>
      match o.action with
      | .switch _ => r.meet o none >>= g.readLetters rest
      | .value .. =>
        match rest with
        | [] => r.meet o none
        | '=' :: value => r.meet o (some (String.ofList value))
        | value => r.meet o (some (String.ofList value))

/-- A word is met while options may still come. -/
def readWord (g : Grammar σ) (r : Reading σ) (word : String) : Except ArgumentError (Reading σ) :=
  match word.toList with
  | ['-', '-'] => .ok { r with operandsOnly := true }
  | '-' :: '-' :: body => g.readNamed r word body
  | '-' :: c :: rest =>
    if g.takesHyphens && (c :: rest).any fun c => (g.ofLetter? c).isNone then g.readPlain r word
    else g.readLetters (c :: rest) r
  | _ => g.readPlain r word

/-- The words of a command, up to the name of a further command, which is answered together with
the words behind it. -/
def readWords (g : Grammar σ) :
    List String → Reading σ → Except ArgumentError (Reading σ × Option (String × List String))
  | [], r => .ok (r, none)
  | word :: rest, r =>
    if r.operandsOnly then g.readOperand r word >>= g.readWords rest
    else if g.commands.contains word then .ok (r, some (word, rest))
    else g.readWord r word >>= g.readWords rest

/-- What the words of a command amount to. -/
def read (g : Grammar σ) (init : σ) (words : List String) :
    Except ArgumentError (σ × Option (String × List String)) := do
  let (r, further) ← g.readWords words (Reading.start init)
  let r ← r.resolve
  return (r.result, further)

end Grammar

end TapeMachine.Command
