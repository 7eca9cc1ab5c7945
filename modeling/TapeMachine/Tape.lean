/-
**The tape.**

The tape is a row of cells, one byte each, all zero at the start.  Counting wraps around at the
modulus of the machine: one more than the largest value is zero, one less than zero the largest.

Only the cells up to the last one that was ever written are stored; the others still hold the zero
they started with, so a long tape costs nothing until it is used.  How many cells are stored is
therefore no property of the tape: what a tape holds is what `TapeMachine.Tape.get?` reads, and two
tapes are compared by `TapeMachine.Tape.agrees`.

Main definitions:

* `TapeMachine.Tape`, `TapeMachine.Tape.blank` — the row of cells, and the one a run starts on;
* `TapeMachine.Tape.get?`, `TapeMachine.Tape.set` — reading and writing one cell;
* `TapeMachine.Tape.succ`, `TapeMachine.Tape.pred` — counting with wraparound;
* `TapeMachine.Tape.agrees` — two tapes hold the same.

Main results:

* `TapeMachine.Tape.get?_blank`, `TapeMachine.Tape.get?_set` — a blank tape reads zero, and a write
  changes one cell;
* `TapeMachine.Tape.agrees_iff` — tapes agree when no reading tells them apart;
* `TapeMachine.Tape.toNat_succ`, `TapeMachine.Tape.toNat_pred` — counting is arithmetic modulo the
  modulus.
-/

import TapeMachine.Machine

set_option relaxedAutoImplicit false
set_option autoImplicit false

namespace TapeMachine

/-- A row of cells that count modulo `modulus`. -/
structure Tape where
  /-- The cells from left to right, up to the last one that was ever written. -/
  written : Array UInt8
  /-- The number of cells. -/
  capacity : Nat
  /-- The modulus at which a cell wraps around. -/
  modulus : Nat
deriving DecidableEq, Inhabited

namespace Tape

/-- The tape of a machine before anything is written. -/
def blank (m : Machine) : Tape := ⟨#[], m.capacity, m.modulus⟩

/-- The value of a cell, if the index lies on the tape. -/
def get? (t : Tape) (index : Nat) : Option UInt8 :=
  if index < t.capacity then some (t.written.getD index 0) else none

/-- The stored cells, filled up with zeros to the given number. -/
def reach (t : Tape) (count : Nat) : Array UInt8 :=
  t.written ++ Array.replicate (count - t.written.size) 0

/-- The tape with one cell overwritten; nothing changes when the index lies beside the tape. -/
def set (t : Tape) (index : Nat) (value : UInt8) : Tape :=
  if index < t.capacity then
    { t with written := (t.reach (index + 1)).setIfInBounds index value }
  else t

/-- The value after `value` when counting up. -/
def succ (t : Tape) (value : UInt8) : UInt8 := UInt8.ofNat ((value.toNat + 1) % t.modulus)

/-- The value after `value` when counting down. -/
def pred (t : Tape) (value : UInt8) : UInt8 :=
  UInt8.ofNat ((value.toNat + t.modulus - 1) % t.modulus)

/-- The cells that are not zero, with their indices, from left to right. -/
def nonzero (t : Tape) : List (Nat × UInt8) :=
  (t.written.foldl (fun (acc : Nat × List (Nat × UInt8)) v =>
    (acc.1 + 1, if v = 0 then acc.2 else (acc.1, v) :: acc.2)) (0, [])).2.reverse

/-- Whether two tapes are equally long, count alike and hold the same values. -/
def agrees (t u : Tape) : Bool :=
  t.capacity = u.capacity && t.modulus = u.modulus &&
    (List.range (max t.written.size u.written.size)).all fun i => t.get? i = u.get? i

theorem get?_blank (m : Machine) (i : Nat) :
    (blank m).get? i = if i < m.capacity then some 0 else none := by
  simp [blank, get?]

@[simp] theorem capacity_set (t : Tape) (i : Nat) (v : UInt8) :
    (t.set i v).capacity = t.capacity := by
  unfold set
  split <;> rfl

@[simp] theorem modulus_set (t : Tape) (i : Nat) (v : UInt8) :
    (t.set i v).modulus = t.modulus := by
  unfold set
  split <;> rfl

theorem size_reach (t : Tape) (n : Nat) : (t.reach n).size = max t.written.size n := by
  simp only [reach, Array.size_append, Array.size_replicate]
  omega

/-- The zeros that are added are those that were read before. -/
theorem getD_reach (t : Tape) (n i : Nat) : (t.reach n).getD i 0 = t.written.getD i 0 := by
  simp only [reach, Array.getD_eq_getD_getElem?, Array.getElem?_append, Array.getElem?_replicate]
  by_cases h : i < t.written.size
  · simp [h]
  · simp only [h, if_false]
    split <;> simp [h]

/-- **A write changes one cell** and no other. -/
theorem get?_set (t : Tape) (i j : Nat) (v : UInt8) :
    (t.set i v).get? j = if i = j ∧ i < t.capacity then some v else t.get? j := by
  by_cases hi : i < t.capacity
  · have hsize : i < (t.reach (i + 1)).size := by
      rw [size_reach]
      omega
    by_cases h : i = j
    · subst h
      simp [set, get?, hi, hsize, Array.getD_eq_getD_getElem?]
    · have hget : ((t.reach (i + 1)).setIfInBounds i v).getD j 0 = t.written.getD j 0 := by
        rw [← t.getD_reach (i + 1) j, Array.getD_eq_getD_getElem?, Array.getD_eq_getD_getElem?,
          Array.getElem?_setIfInBounds_ne h]
      simp [set, get?, hi, h, hget]
  · simp [set, hi]

theorem get?_eq_none_iff (t : Tape) (i : Nat) : t.get? i = none ↔ t.capacity ≤ i := by
  simp [get?]

/-- Beyond what is stored, a tape reads zero. -/
theorem get?_of_size_le (t : Tape) (i : Nat) (h : t.written.size ≤ i) :
    t.get? i = if i < t.capacity then some 0 else none := by
  simp [get?, Array.getD, Nat.not_lt.mpr h]

/-- **Tapes agree when no reading tells them apart**, however much of them is stored. -/
theorem agrees_iff (t u : Tape) :
    t.agrees u = true ↔
      t.capacity = u.capacity ∧ t.modulus = u.modulus ∧ ∀ i, t.get? i = u.get? i := by
  simp only [agrees, Bool.and_eq_true, decide_eq_true_eq, List.all_eq_true, List.mem_range,
    and_assoc]
  refine and_congr_right fun hc => and_congr_right fun _ => ⟨fun h i => ?_, fun h i _ => h i⟩
  by_cases hi : i < max t.written.size u.written.size
  · exact h i hi
  · rw [t.get?_of_size_le i (by omega), u.get?_of_size_le i (by omega), hc]

theorem agrees_refl (t : Tape) : t.agrees t = true := by
  simp [agrees_iff]

theorem toNat_succ (t : Tape) (v : UInt8) (h0 : 0 < t.modulus) (h : t.modulus ≤ 256) :
    (t.succ v).toNat = (v.toNat + 1) % t.modulus := by
  have := Nat.mod_lt (v.toNat + 1) h0
  simp only [succ, UInt8.toNat_ofNat']
  exact Nat.mod_eq_of_lt (by omega)

theorem toNat_pred (t : Tape) (v : UInt8) (h0 : 0 < t.modulus) (h : t.modulus ≤ 256) :
    (t.pred v).toNat = (v.toNat + t.modulus - 1) % t.modulus := by
  have := Nat.mod_lt (v.toNat + t.modulus - 1) h0
  simp only [pred, UInt8.toNat_ofNat']
  exact Nat.mod_eq_of_lt (by omega)

end Tape

end TapeMachine
