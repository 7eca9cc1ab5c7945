/-
**Keys.**

Main definitions:

* `TapeMachine.Key`, `TapeMachine.Modifiers`, `TapeMachine.KeyPress` — a key, the keys held down
  with it, and the two together;
* `TapeMachine.KeySource`, `TapeMachine.KeySource.Lawful` — where key presses come from, and which
  of them a terminal reports;
* `TapeMachine.isControl` — the characters that are not written but act.
-/

set_option relaxedAutoImplicit false
set_option autoImplicit false

namespace TapeMachine

/-- A key of the keyboard. -/
inductive Key where
  /-- A key that writes a character. -/
  | char (c : Char)
  | left
  | right
  | up
  | down
  | home
  | finish
  | pageUp
  | pageDown
  | tab
  | backTab
  | enter
  | backspace
  | delete
  | insert
  | escape
  /-- A function key, counted from one. -/
  | function (n : Nat)
  /-- Any other key, such as a lock key or a media key, by a number that it goes by. -/
  | other (code : Nat)
deriving DecidableEq

/-- The keys that are held down with another key. -/
structure Modifiers where
  /-- The control key. -/
  control : Bool
  /-- The alternate key. -/
  alt : Bool
  /-- The shift key. -/
  shift : Bool
  /-- The super key. -/
  superKey : Bool
  /-- The hyper key. -/
  hyperKey : Bool
  /-- The meta key. -/
  metaKey : Bool
deriving DecidableEq

namespace Modifiers

/-- No other key is held down. -/
def none : Modifiers := ⟨false, false, false, false, false, false⟩

/-- No other key is held down, but perhaps the shift key. -/
def isPlain (m : Modifiers) : Bool :=
  !m.control && !m.alt && !m.superKey && !m.hyperKey && !m.metaKey

/-- The modifiers without the super key, the hyper key and the meta key. -/
def basic (m : Modifiers) : Modifiers :=
  { m with superKey := false, hyperKey := false, metaKey := false }

end Modifiers

/-- A key with the keys held down with it. -/
structure KeyPress where
  /-- The key. -/
  key : Key
  /-- The keys held down with it. -/
  modifiers : Modifiers
deriving DecidableEq

/-- The key press without the super key, the hyper key and the meta key. -/
def KeyPress.basic (k : KeyPress) : KeyPress := { k with modifiers := k.modifiers.basic }

/-- Where key presses come from, told by the presses that it reports. -/
abbrev KeySource := KeyPress → Prop

namespace KeySource

/-- **The laws of a terminal** as a source of key presses.  It tells of the super key, the hyper key
and the meta key only those programs that ask for it, and the viewer does not ask. -/
structure Lawful (reports : KeySource) : Prop where
  /-- The super key is not reported. -/
  superKey : ∀ {k}, reports k → k.modifiers.superKey = false
  /-- The hyper key is not reported. -/
  hyperKey : ∀ {k}, reports k → k.modifiers.hyperKey = false
  /-- The meta key is not reported. -/
  metaKey : ∀ {k}, reports k → k.modifiers.metaKey = false

/-- What a terminal reports is the whole press. -/
theorem Lawful.basic_eq {reports : KeySource} (h : reports.Lawful) {k : KeyPress}
    (hk : reports k) : k.basic = k := by
  have hsuper := h.superKey hk
  have hhyper := h.hyperKey hk
  have hmeta := h.metaKey hk
  obtain ⟨key, control, alt, shift, superKey, hyperKey, metaKey⟩ := k
  cases hsuper
  cases hhyper
  cases hmeta
  rfl

/-- A terminal that reports every press, but for these keys. -/
def standard : KeySource := fun k => k.basic = k

theorem lawful_standard : standard.Lawful where
  superKey h := congrArg (fun k : KeyPress => k.modifiers.superKey) h.symm
  hyperKey h := congrArg (fun k : KeyPress => k.modifiers.hyperKey) h.symm
  metaKey h := congrArg (fun k : KeyPress => k.modifiers.metaKey) h.symm

end KeySource

/-- The control characters of Unicode: general category `Cc`. -/
def isControl (c : Char) : Bool :=
  let n := c.toNat
  n ≤ 0x1F || (0x7F ≤ n && n ≤ 0x9F)

end TapeMachine
