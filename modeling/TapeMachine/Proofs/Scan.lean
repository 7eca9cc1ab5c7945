/-
**Scans from anywhere.**

A scan for a partner is not only meaningful at a bracket.  It can set out from any position, inside
the program or behind its end, and what it finds is then the bracket that closes, or opens, the loop
around that position.  This module says exactly what that is, without a scan: the first bracket
ahead that is not paired with a bracket between.

It also opens the loop that a scan is.  The scan keeps a counter, which says how many loops it is in
and is one at the beginning; a bracket that leads into a loop adds one to it, and a bracket that
leads out of one takes one away before the counter is compared with zero.  Whether there is always
something to take away is a question about the whole way of the scan.  Here the counter is taken
down with a check, the loop is run turn by turn, and every turn is compared with the search that the
program uses: as long as both go on, they look for the same, and the counter is above zero.

Main definitions:

* `TapeMachine.Program.PairedWithin` — every bracket of a stretch has its partner in the stretch;
* `TapeMachine.Program.LeadsOut` — the bracket that a scan is looking for;
* `TapeMachine.Scan`, `TapeMachine.Scan.turn`, `TapeMachine.Scan.turns` — a scan on its way, one
  turn of its loop, and several.

Main results:

* `TapeMachine.Program.nested_iff_pairedWithin` — a stretch is well nested when its brackets are
  paired in it;
* `TapeMachine.Program.partner_eq_ok_iff_leadsOut` — **what a scan finds**;
* `TapeMachine.Scan.turn_cases` — what one turn can do;
* `TapeMachine.Scan.exists_turns` — so turns never take the counter below zero, and end;
* `TapeMachine.Program.scan_is_exact` — what that means for every start.
-/

import Mathlib.Data.Nat.PSub
import TapeMachine.Proofs.JumpTable

set_option relaxedAutoImplicit false
set_option autoImplicit false

namespace TapeMachine

namespace Program

variable {p : Program} {d : Direction} {a b i j k : Nat}

/-! ### What a scan is looking for -/

/-- Every bracket from position `a` up to, and not including, `b` has its partner there. -/
def PairedWithin (p : Program) (a b : Nat) : Prop :=
  ∀ i, a ≤ i → i < b → ∀ s : Side, p.get? i = some s.instruction →
    ∃ j, a ≤ j ∧ j < b ∧ p.jumpTable.Pairs i j

/-- From position `i` on, the bracket at `j` leads out: it closes what may be open, and everything
between is paired.  On the way back it opens what may be closed, and the way back has to begin in
the program or at its end. -/
def LeadsOut (p : Program) (i j : Nat) : Direction → Prop
  | .forward => i < j ∧ p.get? j = some .closing ∧ p.PairedWithin (i + 1) j
  | .backward => j < i ∧ i ≤ p.length ∧ p.get? j = some .opening ∧ p.PairedWithin (j + 1) i

/-- **A stretch is well nested when its brackets are paired in it.** -/
theorem nested_iff_pairedWithin (hab : a ≤ b) (hb : b ≤ p.length) :
    p.Nested a b ↔ p.PairedWithin a b := by
  rw [nested_iff_mates hab hb]
  constructor
  · rintro ⟨hopen, hclose⟩ i hi hib s hs
    cases s with
    | opening =>
        obtain ⟨j, hj, hm⟩ := hopen i hi hib hs
        exact ⟨j, Nat.le_trans hi (Nat.le_of_lt hm.lt), hj, (pairs_iff_of_opening hs).mpr hm⟩
    | closing =>
        obtain ⟨j, hj, hm⟩ := hclose i hi hib hs
        exact ⟨j, hj, Nat.lt_trans hm.lt hib, (pairs_iff_of_closing hs).mpr hm⟩
  · intro h
    constructor
    · intro i hi hib hs
      obtain ⟨j, -, hj, hpairs⟩ := h i hi hib .opening hs
      exact ⟨j, hj, (pairs_iff_of_opening hs).mp hpairs⟩
    · intro j hj hjb hs
      obtain ⟨i, hi, -, hpairs⟩ := h j hj hjb .closing hs
      exact ⟨i, hi, (pairs_iff_of_closing hs).mp hpairs⟩

/-- **A scan finds the bracket that leads out**, from wherever it sets out. -/
theorem partner_eq_ok_iff_leadsOut : p.partner i d = .ok j ↔ p.LeadsOut i j d := by
  cases d with
  | forward =>
      rw [partner_forward_eq_ok_iff]
      constructor
      · rintro ⟨hj, h⟩
        exact ⟨h.le, hj, (nested_iff_pairedWithin h.le h.le_length).mp h⟩
      · rintro ⟨hij, hj, h⟩
        exact ⟨hj, (nested_iff_pairedWithin hij (Nat.le_of_lt (lt_length_of_get? hj))).mpr h⟩
  | backward =>
      rw [partner_backward_eq_ok_iff]
      constructor
      · rintro ⟨hj, h⟩
        exact ⟨h.le, h.le_length, hj, (nested_iff_pairedWithin h.le h.le_length).mp h⟩
      · rintro ⟨hji, hi, hj, h⟩
        exact ⟨hj, (nested_iff_pairedWithin hji hi).mpr h⟩

/-- At most one bracket leads out. -/
theorem LeadsOut.unique (hj : p.LeadsOut i j d) (hk : p.LeadsOut i k d) : j = k := by
  have hj := partner_eq_ok_iff_leadsOut.mpr hj
  have hk := partner_eq_ok_iff_leadsOut.mpr hk
  exact Except.ok.inj (hj.symm.trans hk)

/-- What a scan that is in `depth` loops beside its own finds behind a position. -/
def seek (p : Program) (depth position : Nat) : Direction → Option Nat
  | .forward => p.scanRight depth (position + 1)
  | .backward => p.scanLeft depth position

theorem toOption_partner : (p.partner i d).toOption = p.seek 0 i d := by
  cases d <;> simp only [partner, seek] <;> split <;> simp_all [Except.toOption]

end Program

/-! ### The loop -/

namespace Direction

/-- The next position, if there is one: on the way back there is none before the first. -/
def next? : Direction → Nat → Option Nat
  | forward, i => some (i + 1)
  | backward, i => i.ppred

/-- The bracket that leads into a loop. -/
def entering (d : Direction) : Instruction := d.side.instruction

/-- The bracket that leads out of a loop. -/
def leaving : Direction → Instruction
  | forward => .closing
  | backward => .opening

/-- The positions of a program of the given length that lie ahead. -/
def ahead (length i : Nat) : Direction → Nat
  | forward => length - i
  | backward => if i ≤ length then i else 0

theorem ahead_le (d : Direction) (length i : Nat) : ahead length i d ≤ length := by
  cases d with
  | forward => exact Nat.sub_le length i
  | backward =>
      simp only [ahead]
      split <;> omega

/-- A turn leaves less ahead. -/
theorem ahead_lt {d : Direction} {length i j : Nat} (h : d.next? i = some j) (hj : j < length) :
    ahead length j d < ahead length i d := by
  cases d with
  | forward =>
      cases h
      simp only [ahead]
      omega
  | backward =>
      have hi : j + 1 = i := Nat.ppred_eq_some.mp h
      simp only [ahead]
      rw [if_pos (by omega), if_pos (by omega)]
      omega

end Direction

/-- A scan on its way: the position it has come to, and how many loops it is in. -/
structure Scan where
  /-- The position. -/
  position : Nat
  /-- The loops, the one whose end is looked for among them. -/
  depth : Nat
deriving DecidableEq

namespace Scan

/-- What a turn comes to. -/
inductive Turn where
  /-- The scan goes on. -/
  | going (s : Scan)
  /-- The scan is at its end, and has found the bracket at a position or nothing. -/
  | ended (found : Option Nat)
deriving DecidableEq

/-- A scan that sets out. -/
def setOut (i : Nat) : Scan := ⟨i, 1⟩

/-- One turn of the loop: go to the next instruction and count it.  There is no result when the
counter would be taken below zero. -/
def turn (p : Program) (d : Direction) (s : Scan) : Option Turn :=
  match d.next? s.position with
  | none => some (.ended none)
  | some i =>
    match p.get? i with
    | none => some (.ended none)
    | some x =>
      if x = d.entering then some (.going ⟨i, s.depth + 1⟩)
      else if x = d.leaving then
        s.depth.ppred.map fun depth => if depth = 0 then .ended (some i) else .going ⟨i, depth⟩
      else some (.going ⟨i, s.depth⟩)

/-- Some turns of the loop, or as many as it takes to come to an end. -/
def turns (p : Program) (d : Direction) : Nat → Scan → Option Turn
  | 0, s => some (.going s)
  | n + 1, s =>
    match s.turn p d with
    | some (.going t) => t.turns p d n
    | result => result

variable {p : Program} {d : Direction}

/-- The search that the program uses, turn by turn. -/
theorem seek_eq (p : Program) (d : Direction) (i depth : Nat) :
    p.seek depth i d =
      match d.next? i with
      | none => none
      | some j =>
        match p.get? j with
        | none => none
        | some x =>
          if x = d.entering then p.seek (depth + 1) j d
          else if x = d.leaving then if depth = 0 then some j else p.seek (depth - 1) j d
          else p.seek depth j d := by
  cases d with
  | forward =>
      simp only [Direction.next?, Program.seek]
      rw [Program.scanRight]
      by_cases hi : i + 1 < p.length
      · obtain ⟨x, hx⟩ := Program.get?_eq_some_of_lt hi
        rw [dif_pos hi, hx]
        cases x <;> rfl
      · have hx : p.get? (i + 1) = none := Array.getElem?_eq_none (Nat.not_lt.mp hi)
        rw [dif_neg hi, hx]
  | backward =>
      cases i with
      | zero => rfl
      | succ i =>
          simp only [Direction.next?, Program.seek, Nat.ppred_succ]
          rw [Program.scanLeft]
          cases hx : p.get? i with
          | none => rfl
          | some x => cases x <;> rfl

/-- **What one turn can do**, when the counter is above zero: it comes to the end that the search
comes to, or goes on with the same search from a position with less ahead. -/
theorem turn_cases (p : Program) (d : Direction) (i depth : Nat) :
    turn p d ⟨i, depth + 1⟩ = some (.ended (p.seek depth i d)) ∨
      ∃ j depth', turn p d ⟨i, depth + 1⟩ = some (.going ⟨j, depth' + 1⟩) ∧
        depth' ≤ depth + 1 ∧ d.ahead p.length j < d.ahead p.length i ∧
          p.seek depth' j d = p.seek depth i d := by
  rw [seek_eq p d i depth]
  unfold turn
  dsimp only
  cases hnext : d.next? i with
  | none => exact .inl rfl
  | some j =>
      cases hx : p.get? j with
      | none => exact .inl (by simp only [hx])
      | some x =>
          have hahead := Direction.ahead_lt hnext (Program.lt_length_of_get? hx)
          simp only [hx]
          by_cases hentering : x = d.entering
          · simp only [if_pos hentering]
            exact .inr ⟨j, depth + 1, rfl, Nat.le_refl _, hahead, rfl⟩
          · by_cases hleaving : x = d.leaving
            · simp only [if_neg hentering, if_pos hleaving, Nat.ppred_succ, Option.map_some]
              cases depth with
              | zero => exact .inl rfl
              | succ depth => exact .inr ⟨j, depth, rfl, by omega, hahead, rfl⟩
            · simp only [if_neg hentering, if_neg hleaving]
              exact .inr ⟨j, depth, rfl, by omega, hahead, rfl⟩

/-- **Turns never take the counter below zero**, and they end where the search ends when there are
more of them than positions ahead. -/
theorem exists_turns (p : Program) (d : Direction) (n i depth : Nat) :
    turns p d n ⟨i, depth + 1⟩ = some (.ended (p.seek depth i d)) ∨
      ∃ j depth', turns p d n ⟨i, depth + 1⟩ = some (.going ⟨j, depth' + 1⟩) ∧
        depth' ≤ depth + n ∧ d.ahead p.length j + n ≤ d.ahead p.length i := by
  induction n generalizing i depth with
  | zero => exact .inr ⟨i, depth, rfl, Nat.le_refl _, Nat.le_refl _⟩
  | succ n ih =>
      rcases turn_cases p d i depth with hended | ⟨j, depth', hgoing, hdepth, hahead, hseek⟩
      · left
        rw [turns, hended]
      · rw [turns, hgoing, ← hseek]
        dsimp only
        rcases ih j depth' with hended | ⟨k, depth'', hturns, hdepth', hahead'⟩
        · exact .inl hended
        · exact .inr ⟨k, depth'', hturns, by omega, by omega⟩

end Scan

namespace Program

/-- **A scan is exact from anywhere.**  It may set out from every position whose successor has 64
bits, be it on a bracket or not, in the program or not, and in both directions.  It finds the one
bracket that leads out, and reports where it set out, and from which side, when there is none.  The
loop that it is comes to its end after at most one turn more than the program has instructions, and
until then its counter is at least one and at most that number.  What is paired within a stretch is,
in other words, the text of a structured program. -/
theorem scan_is_exact (p : Program) (d : Direction) {i : Nat} (hi : i < Text.word64 - 1) :
    ∃ r, p.checkedPartner i d = .ok r ∧
      (∀ j, r = .ok j ↔ p.LeadsOut i j d) ∧
      (∀ j k, p.LeadsOut i j d → p.LeadsOut i k d → j = k) ∧
      (∀ u, r = .error u ↔ u = ⟨i, d.side⟩ ∧ ∀ j, ¬p.LeadsOut i j d) ∧
      (∀ n, p.length < n → (Scan.setOut i).turns p d n = some (.ended r.toOption)) ∧
      (∀ n, ∃ t, (Scan.setOut i).turns p d n = some t ∧
        ∀ s, t = .going s → 0 < s.depth ∧ s.depth ≤ p.length + 1) ∧
      ∀ a b, a ≤ b → b ≤ p.length → (p.PairedWithin a b ↔
        ∃ block : Block, p.Holds a block.flatten ∧ a + block.flatten.length = b) := by
  have hahead := d.ahead_le p.length i
  refine ⟨_, checkedPartner_of_lt (by omega), fun j => partner_eq_ok_iff_leadsOut,
    fun j k => LeadsOut.unique, fun u => ?_, fun n hn => ?_, fun n => ?_, fun a b hab hb => ?_⟩
  · rw [partner_eq_error_iff]
    simp only [ne_eq, partner_eq_ok_iff_leadsOut]
  · rw [toOption_partner]
    rcases Scan.exists_turns p d n i 0 with hended | ⟨j, depth, -, -, hleft⟩
    · exact hended
    · omega
  · rcases Scan.exists_turns p d n i 0 with hended | ⟨j, depth, hgoing, hdepth, hleft⟩
    · exact ⟨_, hended, nofun⟩
    · refine ⟨_, hgoing, ?_⟩
      rintro s ⟨⟩
      dsimp only
      omega
  · rw [← nested_iff_pairedWithin hab hb, nested_iff_exists_block]

/-- From the `+` in `[+[-]+]` the scans find both brackets of the loop around it. -/
theorem scan_from_inside_a_loop :
    let p := ofText "[+[-]+]".toList
    1 < Text.word64 - 1 ∧ p.LeadsOut 1 6 .forward ∧ p.LeadsOut 1 0 .backward ∧
      (∀ j, p.LeadsOut 1 j .forward → j = 6) ∧ (∀ j, p.LeadsOut 1 j .backward → j = 0) ∧
      (Scan.setOut 1).turns p .forward 8 = some (.ended (some 6)) := by
  intro p
  have hi : 1 < Text.word64 - 1 := by decide
  obtain ⟨r, hr, hfinds, hunique, -, hturns, -⟩ := scan_is_exact p .forward hi
  obtain ⟨r', hr', hfinds', hunique', -⟩ := scan_is_exact p .backward hi
  have hpartner : p.checkedPartner 1 .forward = .ok (.ok 6) := by cbv
  have hpartner' : p.checkedPartner 1 .backward = .ok (.ok 0) := by cbv
  cases hr.symm.trans hpartner
  cases hr'.symm.trans hpartner'
  have hforward := (hfinds 6).mp rfl
  have hbackward := (hfinds' 0).mp rfl
  exact ⟨hi, hforward, hbackward, fun j hj => hunique j 6 hj hforward,
    fun j hj => hunique' j 0 hj hbackward, hturns 8 (by decide)⟩

end Program

end TapeMachine
