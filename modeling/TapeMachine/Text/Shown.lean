/-
**What a terminal shows of a text.**

A text may hold control characters and control sequences, which tell a terminal what to do and are
not shown.  A control sequence begins with the escape character.  What follows tells its kind: most
end with the next letter, some with the letter behind their parameters, and some carry a command or
a message that ends with a control character.

White space among the control characters is shown.  In a short sequence or one with parameters it
interrupts the sequence: what follows is shown as well, until the next control character that is no
white space, and then the sequence goes on.  A character outside of ASCII that is shown ends the
sequence that was interrupted.

Main definitions:

* `TapeMachine.Text.ControlSequence`, `TapeMachine.Text.Terminal` — a sequence that has begun, and
  what a terminal is in the middle of;
* `TapeMachine.Text.Terminal.receive` — what a terminal does with a character;
* `TapeMachine.Text.shown` — what is shown of a text.
-/

set_option relaxedAutoImplicit false
set_option autoImplicit false

namespace TapeMachine.Text

/-! ### Control characters -/

/-- The characters with control codes of seven bits. -/
def isControlCode (c : Char) : Bool := c.toNat < 0x20 || c.toNat = 0x7F

/-- The white space among the control characters. -/
def isWhiteControl (c : Char) : Bool := c = '\t' || c = '\n' || c = '\x0c' || c = '\r'

/-- The encoding of a character holds the code that ends a message. -/
def endsMessage (c : Char) : Bool := (String.singleton c).toUTF8.toList.contains 0x9C

/-- The code of a character lies between two others. -/
def codeIn (first last : Nat) (c : Char) : Bool := first ≤ c.toNat && c.toNat ≤ last

/-! ### Sequences -/

/-- A control sequence that has begun, by what may still come. -/
inductive ControlSequence where
  /-- Only the escape character has come. -/
  | escape
  /-- The next letter or digit ends the sequence. -/
  | short
  /-- Parameters come, and a letter ends the sequence. -/
  | parameters
  /-- A command to the system comes, and a bell ends it. -/
  | command
  /-- A message to a device comes, of which nothing has come. -/
  | device
  /-- The parameters of a message to a device come. -/
  | deviceParameters
  /-- The end of the head of a message to a device comes. -/
  | deviceHead
  /-- A message comes. -/
  | message
deriving DecidableEq

namespace ControlSequence

/-- The sequence that an escape character and the one behind it begin. -/
def ofIntroducer (c : Char) : Option ControlSequence :=
  if codeIn 0x20 0x2F c then some short
  else
    match c with
    | '[' => some parameters
    | ']' => some command
    | 'P' => some device
    | 'X' | '^' | '_' => some message
    | _ => if codeIn 0x30 0x7E c then none else some escape

/-- The white space among the control characters interrupts a sequence. -/
def isOpen : ControlSequence → Bool
  | escape | short | parameters => true
  | _ => false

/-- What is left of a sequence when a character has come, if it is not over. -/
def next (s : ControlSequence) (c : Char) : Option ControlSequence :=
  match s with
  | escape => ofIntroducer c
  | short => if codeIn 0x30 0x7E c then none else some short
  | parameters => if codeIn 0x40 0x7E c then none else some parameters
  | command => if c = '\x07' then none else some command
  | device =>
    if codeIn 0x20 0x2F c then some deviceHead
    else if codeIn 0x30 0x3F c then some deviceParameters
    else if codeIn 0x40 0x7E c then some message
    else some device
  | deviceParameters =>
    if codeIn 0x20 0x2F c then some deviceHead
    else if codeIn 0x3C 0x7E c then some message
    else some deviceParameters
  | deviceHead => if codeIn 0x30 0x7E c then some message else some deviceHead
  | message => if endsMessage c then none else some message

end ControlSequence

/-! ### Terminals -/

/-- What a terminal is in the middle of. -/
inductive Terminal where
  /-- Plain text. -/
  | plain
  /-- A control sequence. -/
  | within (sequence : ControlSequence)
  /-- Text that interrupts a control sequence. -/
  | interrupted (sequence : ControlSequence)
deriving DecidableEq

namespace Terminal

/-- The terminal after a character of a sequence. -/
def ofSequence : Option ControlSequence → Terminal
  | none => plain
  | some s => within s

/-- What a terminal does with a character that is not about to begin or to break off a sequence:
what it is in the middle of then, and whether the character is shown. -/
def take (t : Terminal) (c : Char) : Terminal × Bool :=
  match t with
  | plain => (plain, !isControlCode c || isWhiteControl c)
  | within s =>
    if s.isOpen && isWhiteControl c then (interrupted s, true) else (ofSequence (s.next c), false)
  | interrupted s =>
    if isControlCode c then
      if isWhiteControl c then (interrupted s, true) else (within s, false)
    else if c.toNat < 0x80 then (interrupted s, true)
    else (plain, true)

/-- What a terminal does with a character.  An escape character begins a sequence, and two other
control characters break every sequence off. -/
def receive (t : Terminal) (c : Char) : Terminal × Bool :=
  match c with
  | '\x1b' => (within .escape, false)
  | '\x18' | '\x1a' => (plain, false)
  | c => t.take c

/-- What a terminal shows of a text. -/
def showText : Terminal → List Char → List Char
  | _, [] => []
  | t, c :: rest =>
    match t.receive c with
    | (next, true) => c :: next.showText rest
    | (next, false) => next.showText rest

end Terminal

/-- What a terminal shows of a text. -/
def shown (t : List Char) : List Char := Terminal.plain.showText t

end TapeMachine.Text
