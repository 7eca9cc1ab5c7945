/-
**Decimal numerals.**

A numeral is a sequence of decimal digits, with a plus sign in front if one likes, or a minus sign
where negative numbers are meant.  Digits are read from the left, and reading stops at the first
character that is no digit or at the first digit that takes the number out of its range.

Main definitions:

* `TapeMachine.Text.NumeralError` — why a text is no numeral of the range;
* `TapeMachine.Text.readNat` — a number below a bound;
* `TapeMachine.Text.readInt` — a number with a sign, between two bounds;
* `TapeMachine.Text.isReal` — the spelling of a real number, of an infinite one, or of none.
-/

set_option relaxedAutoImplicit false
set_option autoImplicit false

namespace TapeMachine.Text

/-- Why a text is no numeral of the range. -/
inductive NumeralError where
  /-- The text is empty. -/
  | empty
  /-- A character is no digit, or there is none. -/
  | invalidDigit
  /-- The number lies above the range. -/
  | tooLarge
  /-- The number lies below the range. -/
  | tooSmall
deriving DecidableEq

/-- The report of a text that is no numeral. -/
def NumeralError.message : NumeralError → String
  | empty => "cannot parse integer from empty string"
  | invalidDigit => "invalid digit found in string"
  | tooLarge => "number too large to fit in target type"
  | tooSmall => "number too small to fit in target type"

/-- The value of a decimal digit. -/
def digit? (c : Char) : Option Nat :=
  if '0' ≤ c ∧ c ≤ '9' then some (c.toNat - '0'.toNat) else none

/-- The value of a hexadecimal digit. -/
def hexDigit? (c : Char) : Option Nat :=
  if '0' ≤ c ∧ c ≤ '9' then some (c.toNat - '0'.toNat)
  else if 'a' ≤ c ∧ c ≤ 'f' then some (c.toNat - 'a'.toNat + 10)
  else if 'A' ≤ c ∧ c ≤ 'F' then some (c.toNat - 'A'.toNat + 10)
  else none

/-- The number that the digits of a text continue `n` to, if it stays at or below `limit`; a number
above it is answered with `excess`. -/
def readDigits (limit : Nat) (excess : NumeralError) : Nat → List Char → Except NumeralError Nat
  | n, [] => .ok n
  | n, c :: t =>
    match digit? c with
    | none => .error .invalidDigit
    | some d =>
      if 10 * n + d ≤ limit then readDigits limit excess (10 * n + d) t else .error excess

/-- The digits of a text that may not be empty. -/
def readSomeDigits (limit : Nat) (excess : NumeralError) (t : List Char) :
    Except NumeralError Nat :=
  if t.isEmpty then .error .invalidDigit else readDigits limit excess 0 t

/-- The number below `bound` that a text spells. -/
def readNat (bound : Nat) : List Char → Except NumeralError Nat
  | [] => .error .empty
  | '+' :: t => readSomeDigits (bound - 1) .tooLarge t
  | t => readSomeDigits (bound - 1) .tooLarge t

/-- The number from `-bound` up to, and not including, `bound` that a text spells. -/
def readInt (bound : Nat) : List Char → Except NumeralError Int
  | [] => .error .empty
  | '+' :: t => (readSomeDigits (bound - 1) .tooLarge t).map Int.ofNat
  | '-' :: t => (readSomeDigits bound .tooSmall t).map fun n => -Int.ofNat n
  | t => (readSomeDigits (bound - 1) .tooLarge t).map Int.ofNat

/-- A text is empty, or it is an exponent: the letter, a sign if one likes, and digits. -/
def isExponent : List Char → Bool
  | [] => true
  | c :: t =>
    let digits := match t with
      | '+' :: t | '-' :: t => t
      | t => t
    (c = 'e' || c = 'E') && !digits.isEmpty && digits.all Char.isDigit

/-- A text is digits with a point among them if one likes, and an exponent if one likes. -/
def isDecimal (t : List Char) : Bool :=
  let whole := t.takeWhile Char.isDigit
  match t.dropWhile Char.isDigit with
  | '.' :: t =>
    let places := t.takeWhile Char.isDigit
    (!whole.isEmpty || !places.isEmpty) && isExponent (t.dropWhile Char.isDigit)
  | t => !whole.isEmpty && isExponent t

/-- A text spells a real number, an infinite one, or what is no number, with a sign if one likes. -/
def isReal (t : List Char) : Bool :=
  let unsigned := match t with
    | '+' :: t | '-' :: t => t
    | t => t
  isDecimal unsigned ||
    ["inf", "infinity", "nan"].contains (String.ofList (unsigned.map Char.toLower))

/-- Numbers of 64 bits lie below this one. -/
def word64 : Nat := 18446744073709551616

/-- Numbers of 64 bits with a sign lie below this one, and not below its negative. -/
def signed64 : Nat := 9223372036854775808

/-- Numbers of 16 bits lie below this one. -/
def word16 : Nat := 65536

end TapeMachine.Text
