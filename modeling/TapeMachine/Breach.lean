/-
**Broken contracts.**

Some operations are only meant for arguments that fit together: a state for the program it was
started on, a cut through a text between two characters, a slice inside a list, numbers of 64 bits.
When the arguments do not fit, the operation answers with the contract that was broken instead of a
result.

Main definitions:

* `TapeMachine.Breach` — the contracts, and what broke them;
* `TapeMachine.sliceList` — a slice of a list, checked.
-/

set_option relaxedAutoImplicit false
set_option autoImplicit false

namespace TapeMachine

/-- A contract that does not hold. -/
inductive Breach where
  /-- The next instruction lies outside the program. -/
  | positionOutside (position length : Nat)
  /-- An instruction would continue beyond the end of the program. -/
  | positionEscaped (position length : Nat)
  /-- The pointer lies beside the tape. -/
  | cellOutside (index capacity : Nat)
  /-- A cut through a text falls inside a character. -/
  | cutInsideCharacter
  /-- A slice does not lie inside its list. -/
  | sliceOutside (start stop length : Nat)
  /-- A sum is larger than every number of 64 bits. -/
  | sumTooLarge (left right : Nat)
  /-- A list would be longer than any list in memory. -/
  | lengthTooLarge (length : Nat)
  /-- The toolkit that draws on the screen broke off. -/
  | toolkitFailed (reason : String)
deriving DecidableEq

/-- The report of a broken contract. -/
def Breach.message : Breach → String
  | positionOutside i n => s!"instruction pointer {i} outside program of length {n}"
  | positionEscaped i n => s!"instruction pointer {i} escaped program of length {n}"
  | cellOutside i n => s!"cell {i} outside tape of {n} cells"
  | cutInsideCharacter => "text cut inside a character"
  | sliceOutside i j n => s!"slice from {i} to {j} outside list of length {n}"
  | sumTooLarge a b => s!"sum of {a} and {b} out of range"
  | lengthTooLarge n => s!"no room for a list of length {n}"
  | toolkitFailed reason => reason

/-- The elements from `start` up to, and not including, `stop`. -/
def sliceList {α : Type} (l : List α) (start stop : Nat) : Except Breach (List α) :=
  if start ≤ stop ∧ stop ≤ l.length then .ok ((l.take stop).drop start)
  else .error (.sliceOutside start stop l.length)

theorem sliceList_eq_ok {α : Type} {l : List α} {i j : Nat} (hij : i ≤ j) (hj : j ≤ l.length) :
    sliceList l i j = .ok ((l.take j).drop i) := by
  simp [sliceList, hij, hj]

/-- A result that was changed afterwards was a result before. -/
theorem map_eq_ok_iff {ε α β : Type} {x : Except ε α} {f : α → β} {b : β} :
    x.map f = .ok b ↔ ∃ a, x = .ok a ∧ f a = b := by
  cases x <;> simp [Except.map]

theorem map_eq_error_iff {ε α β : Type} {x : Except ε α} {f : α → β} {e : ε} :
    x.map f = .error e ↔ x = .error e := by
  cases x <;> simp [Except.map]

/-- A computation in two steps has a result when both have one. -/
theorem bind_eq_ok_iff {ε α β : Type} {x : Except ε α} {f : α → Except ε β} {b : β} :
    x >>= f = .ok b ↔ ∃ a, x = .ok a ∧ f a = .ok b := by
  cases x <;> simp [bind, Except.bind]

end TapeMachine
