/-
**The machine a program runs on.**

A machine is given by the number of cells on its tape and by the modulus at which a cell wraps
around.  A cell is stored in one byte, so the modulus is at most 256, and a modulus below two would
leave nothing to count.

Main definitions:

* `TapeMachine.Machine` — a capacity and a modulus that fit together;
* `TapeMachine.Machine.ofShape` — the machine of a requested shape, or why there is none;
* `TapeMachine.Machine.checked` — a machine whose tape fits in memory.

Main results:

* `TapeMachine.Machine.ofShape_eq_ok_iff` — which shapes are machines.
-/

import TapeMachine.Word

set_option relaxedAutoImplicit false
set_option autoImplicit false

namespace TapeMachine

/-- A tape size and a wraparound for its cells. -/
structure Machine where
  /-- The number of cells on the tape. -/
  capacity : Nat
  /-- Cells hold the numbers below this one. -/
  modulus : Nat
  /-- There is a cell to stand on. -/
  capacity_pos : 0 < capacity
  /-- A cell has at least two values. -/
  two_le_modulus : 2 ≤ modulus
  /-- A cell fits a byte. -/
  modulus_le : modulus ≤ 256
deriving DecidableEq

namespace Machine

/-- Why a requested shape is not a machine. -/
inductive Invalid where
  /-- No cells were asked for. -/
  | noCells
  /-- The modulus does not fit a byte, or leaves nothing to count. -/
  | modulusOutOfRange (modulus : Nat)
deriving DecidableEq

/-- The report of an invalid shape. -/
def Invalid.message : Invalid → String
  | noCells => "Invalid capacity: the tape needs at least one cell"
  | modulusOutOfRange m => s!"Invalid cell modulus {m}: expected a value in 2..=256"

/-- The number of cells when none is asked for. -/
def defaultCapacity : Nat := 4096

/-- The modulus when none is asked for. -/
def defaultModulus : Nat := 128

/-- The machine when nothing is asked for. -/
def standard : Machine where
  capacity := defaultCapacity
  modulus := defaultModulus
  capacity_pos := by decide
  two_le_modulus := by decide
  modulus_le := by decide

instance : Inhabited Machine := ⟨standard⟩

/-- The machine of a requested shape.  A missing tape is reported before a modulus out of range. -/
def ofShape (capacity modulus : Nat) : Except Invalid Machine :=
  if hc : 0 < capacity then
    if hm : 2 ≤ modulus ∧ modulus ≤ 256 then .ok ⟨capacity, modulus, hc, hm.1, hm.2⟩
    else .error (.modulusOutOfRange modulus)
  else .error .noCells

/-- The machine with the given number of cells and the default modulus. -/
def ofCapacity (capacity : Nat) : Except Invalid Machine := ofShape capacity defaultModulus

/-- The machine with the same tape and another modulus. -/
def withModulus (m : Machine) (modulus : Nat) : Except Invalid Machine :=
  ofShape m.capacity modulus

/-- The machine, if its tape fits in memory. -/
def checked (m : Machine) : Except Breach Machine := (checkedLength m.capacity).map fun _ => m

/-- A shape is a machine exactly when it has a cell and a modulus that fits a byte. -/
theorem ofShape_eq_ok_iff {capacity modulus : Nat} {m : Machine} :
    ofShape capacity modulus = .ok m ↔ m.capacity = capacity ∧ m.modulus = modulus := by
  constructor
  · intro h
    unfold ofShape at h
    split at h
    · split at h
      · cases h
        exact ⟨rfl, rfl⟩
      · cases h
    · cases h
  · rintro ⟨rfl, rfl⟩
    simp [ofShape, m.capacity_pos, m.two_le_modulus, m.modulus_le]

theorem ofShape_eq_noCells_iff {capacity modulus : Nat} :
    ofShape capacity modulus = .error .noCells ↔ capacity = 0 := by
  unfold ofShape
  split
  · split <;> simp <;> omega
  · simp
    omega

theorem ofShape_eq_modulusOutOfRange_iff {capacity modulus m : Nat} :
    ofShape capacity modulus = .error (.modulusOutOfRange m) ↔
      capacity ≠ 0 ∧ modulus = m ∧ ¬(2 ≤ m ∧ m ≤ 256) := by
  unfold ofShape
  split
  · split
    · simp
      omega
    · simp
      omega
  · simp
    omega

end Machine

end TapeMachine
