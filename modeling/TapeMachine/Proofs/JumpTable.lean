/-
**Jump tables.**

The partner of a bracket is sought anew at every jump.  The usual alternative computes all partners
beforehand, in one pass from left to right with a stack: an opening bracket is put on the stack, a
closing one takes the topmost opening off it and is paired with it.  Here the two are proved to
agree on every program: what a scan finds is what the table pairs, and a scan fails exactly at the
brackets that the pass leaves without a partner.

What carries the proof is a description of the stack by heights: between an opening on the stack
and the next one above it, and between the topmost and the end of what was read, the program is
well nested.

Main definitions:

* `TapeMachine.JumpTable`, `TapeMachine.Program.jumpTable` — the table, and the pass that builds it;
* `TapeMachine.Program.Pending` — the openings on the stack, by what lies between them;
* `TapeMachine.JumpTable.Correct` — what a table says about the part of the program it has read.

Main results:

* `TapeMachine.JumpTable.Correct.read` — one more instruction keeps a table correct;
* `TapeMachine.Program.partner_ok_iff_pairs`, `TapeMachine.Program.partner_error_iff_unmatched` —
  the scan and the table agree;
* `TapeMachine.Program.balanced_iff_partners` — every bracket has a partner exactly when the program
  is balanced;
* `TapeMachine.Program.scan_agrees_with_table` — **scanning on demand is a precomputed table**, on
  every program.
-/

import Mathlib.Tactic.ByContra
import TapeMachine.Proofs.WellNested

set_option relaxedAutoImplicit false
set_option autoImplicit false

namespace TapeMachine

/-! ### The pass from left to right -/

/-- The partners of the brackets read so far. -/
structure JumpTable where
  /-- The openings that wait for their partner, the latest first. -/
  stack : List Nat
  /-- The pairs of an opening and its closing bracket. -/
  pairs : List (Nat × Nat)
  /-- The closings that found no opening on the stack. -/
  stray : List Nat
deriving DecidableEq

namespace JumpTable

/-- The table before anything is read. -/
def empty : JumpTable := ⟨[], [], []⟩

/-- The table after reading an instruction at position `i`. -/
def read (t : JumpTable) (i : Nat) : Instruction → JumpTable
  | .opening => { t with stack := i :: t.stack }
  | .closing =>
    match t.stack with
    | [] => { t with stray := i :: t.stray }
    | j :: rest => { t with stack := rest, pairs := (j, i) :: t.pairs }
  | _ => t

/-- The table after reading instructions, the first of which is at position `i`. -/
def readAll (t : JumpTable) (i : Nat) : List Instruction → JumpTable
  | [] => t
  | x :: rest => (t.read i x).readAll (i + 1) rest

/-- The table pairs the brackets at two positions. -/
def Pairs (t : JumpTable) (i j : Nat) : Prop := (i, j) ∈ t.pairs ∨ (j, i) ∈ t.pairs

/-- The table leaves the bracket at a position without a partner. -/
def LeavesUnmatched (t : JumpTable) (i : Nat) : Prop := i ∈ t.stack ∨ i ∈ t.stray

end JumpTable

namespace Program

/-- The table of a program. -/
def jumpTable (p : Program) : JumpTable := JumpTable.empty.readAll 0 p.toList

/-! ### The stack -/

/-- The openings that are on the stack before position `n`: each is followed by a well nested
stretch, up to the next of them or up to `n`, and below the last of them nothing is open. -/
inductive Pending (p : Program) : Nat → List Nat → Prop where
  | nil {n : Nat} (low : ∀ k ≤ n, p.height n ≤ p.height k) : Pending p n []
  | cons {n i : Nat} {rest : List Nat} (opening : p.get? i = some .opening)
      (body : p.Nested (i + 1) n) (below : Pending p i rest) : Pending p n (i :: rest)

namespace Pending

variable {p : Program} {n : Nat} {stack : List Nat}

/-- A well nested stretch leaves the stack as it was. -/
theorem append_nested {m : Nat} (h : p.Pending n stack) (hm : p.Nested n m) :
    p.Pending m stack := by
  cases h with
  | nil low =>
      refine .nil fun k hk => ?_
      rw [hm.level]
      rcases Nat.le_total k n with hkn | hkn
      · exact low k hkn
      · exact hm.above k hkn hk
  | cons opening body below => exact .cons opening (body.trans hm) below

/-- What is on the stack is open at every position behind it. -/
theorem height_le {i : Nat} (h : p.Pending n stack) (hi : i ∈ stack) :
    p.get? i = some .opening ∧ i < n ∧ ∀ k, i < k → k ≤ n → p.height i < p.height k := by
  induction h with
  | nil low => cases hi
  | @cons n t rest opening body below ih =>
      have hlow : ∀ k, t < k → k ≤ n → p.height t < p.height k := by
        intro k h₁ h₂
        have := body.above k h₁ h₂
        rw [height_succ_of_opening opening] at this
        omega
      have htn : t < n := body.le
      rcases List.mem_cons.mp hi with rfl | hi
      · exact ⟨opening, htn, hlow⟩
      · obtain ⟨ho, hit, hk⟩ := ih hi
        refine ⟨ho, by omega, fun k h₁ h₂ => ?_⟩
        -- up to `t` by induction, behind `t` through the height of `t`
        rcases Nat.lt_or_ge t k with htk | htk
        · have := hk t hit (Nat.le_refl t)
          have := hlow k htk h₂
          omega
        · exact hk k h₁ htk

/-- A closing bracket finds its mate on top of the stack. -/
theorem eq_cons_of_mates {i : Nat} (h : p.Pending n stack) (hm : p.Mates i n) :
    ∃ rest, stack = i :: rest := by
  cases h with
  | nil low =>
      have := low i (Nat.le_of_lt hm.lt)
      have := hm.height_closing
      omega
  | @cons _ t rest opening body below =>
      have h₁ : p.partner n .backward = .ok t := partner_backward_eq_ok_iff.mpr ⟨opening, body⟩
      have h₂ : p.partner n .backward = .ok i := (partner_backward_iff_mates hm.closing).mpr hm
      rw [h₁] at h₂
      cases h₂
      exact ⟨rest, rfl⟩

end Pending

end Program

/-! ### Correct tables -/

namespace JumpTable

/-- What a table says about the first `n` instructions of a program. -/
structure Correct (p : Program) (n : Nat) (t : JumpTable) : Prop where
  /-- The stack holds what is still open. -/
  stack : p.Pending n t.stack
  /-- The pairs are the mates. -/
  pairs : ∀ i j, (i, j) ∈ t.pairs ↔ j < n ∧ p.Mates i j
  /-- At a stray closing bracket nothing is open. -/
  stray : ∀ j ∈ t.stray, p.get? j = some .closing ∧ ∀ k ≤ j, p.height j ≤ p.height k
  /-- No bracket is forgotten. -/
  covers : ∀ i < n, ∀ s : Side, p.get? i = some s.instruction →
    (∃ j, t.Pairs i j) ∨ t.LeavesUnmatched i

theorem correct_empty (p : Program) : Correct p 0 empty where
  stack := .nil fun k hk => by
    obtain rfl : k = 0 := by omega
    exact Int.le_refl _
  pairs i j := by simp [empty]
  stray j hj := by cases hj
  covers i hi := by omega

namespace Correct

variable {p : Program} {n : Nat} {t : JumpTable}

/-- Mates that close before `n + 1` close before `n` or at `n`. -/
theorem mates_succ_iff (i j : Nat) :
    (j < n + 1 ∧ p.Mates i j) ↔ (j = n ∧ p.Mates i n) ∨ (j < n ∧ p.Mates i j) := by
  constructor
  · rintro ⟨hj, hm⟩
    rcases Nat.lt_or_eq_of_le (Nat.le_of_lt_succ hj) with h | rfl
    · exact .inr ⟨h, hm⟩
    · exact .inl ⟨rfl, hm⟩
  · rintro (⟨rfl, hm⟩ | ⟨hj, hm⟩)
    · exact ⟨by omega, hm⟩
    · exact ⟨by omega, hm⟩

/-- When no bracket is closed at `n`, the pairs stay what they are. -/
theorem pairs_of_no_mate (h : Correct p n t) (hn : ∀ i, ¬p.Mates i n) (i j : Nat) :
    (i, j) ∈ t.pairs ↔ j < n + 1 ∧ p.Mates i j := by
  rw [h.pairs, mates_succ_iff]
  simp [hn i]

/-- Positions up to `n` are those before `n`, and `n`. -/
theorem covers_succ {u : JumpTable} (h : Correct p n t)
    (hold : ∀ i, ((∃ j, t.Pairs i j) ∨ t.LeavesUnmatched i) →
      (∃ j, u.Pairs i j) ∨ u.LeavesUnmatched i)
    (hnew : ∀ s : Side, p.get? n = some s.instruction → (∃ j, u.Pairs n j) ∨ u.LeavesUnmatched n) :
    ∀ i < n + 1, ∀ s : Side, p.get? i = some s.instruction →
      (∃ j, u.Pairs i j) ∨ u.LeavesUnmatched i := by
  intro i hi s hs
  rcases Nat.lt_or_eq_of_le (Nat.le_of_lt_succ hi) with hin | rfl
  · exact hold i (h.covers i hin s hs)
  · exact hnew s hs

theorem read_opening (h : Correct p n t) (hx : p.get? n = some .opening) :
    Correct p (n + 1) (t.read n .opening) where
  stack := .cons hx (Program.nested_refl (Program.lt_length_of_get? hx)) h.stack
  pairs := h.pairs_of_no_mate fun i hm => by
    have := hm.closing
    rw [hx] at this
    cases this
  stray := h.stray
  covers := h.covers_succ
    (fun i hi => hi.imp id fun hi => hi.imp (List.mem_cons_of_mem n) id)
    fun s hs => .inr (.inl List.mem_cons_self)

/-- A closing bracket that finds nothing on the stack has no mate. -/
theorem read_closing_nil (h : Correct p n t) (hx : p.get? n = some .closing)
    (hs : t.stack = []) : Correct p (n + 1) (t.read n .closing) := by
  have hlow : ∀ k ≤ n, p.height n ≤ p.height k := by
    have hp := h.stack
    rw [hs] at hp
    cases hp with
    | nil low => exact low
  have hread : t.read n .closing = { t with stray := n :: t.stray } := by simp [read, hs]
  rw [hread]
  constructor
  · rw [hs]
    refine .nil fun k hk => ?_
    rcases Nat.lt_or_eq_of_le hk with hk | rfl
    · have := hlow k (by omega)
      rw [Program.height_succ_of_closing hx]
      omega
    · exact Int.le_refl _
  · refine h.pairs_of_no_mate fun i hm => ?_
    obtain ⟨rest, hr⟩ := h.stack.eq_cons_of_mates hm
    rw [hs] at hr
    cases hr
  · intro j hj
    rcases List.mem_cons.mp hj with rfl | hj
    · exact ⟨hx, hlow⟩
    · exact h.stray j hj
  · refine h.covers_succ ?_ fun s _ => .inr (.inr List.mem_cons_self)
    exact fun i hi => hi.imp id fun hi => hi.imp id (List.mem_cons_of_mem n)

/-- A closing bracket is paired with the top of the stack. -/
theorem read_closing_cons {i : Nat} {rest : List Nat} (h : Correct p n t)
    (hx : p.get? n = some .closing) (hs : t.stack = i :: rest) :
    Correct p (n + 1) (t.read n .closing) := by
  obtain ⟨hm, hbelow⟩ : p.Mates i n ∧ p.Pending i rest := by
    have hp := h.stack
    rw [hs] at hp
    cases hp with
    | cons opening body below => exact ⟨⟨opening, hx, body⟩, below⟩
  have hread : t.read n .closing = { t with stack := rest, pairs := (i, n) :: t.pairs } := by
    simp [read, hs]
  rw [hread]
  constructor
  · exact hbelow.append_nested hm.nested
  · intro a b
    rw [List.mem_cons, Prod.mk.injEq, h.pairs, mates_succ_iff]
    -- the mate of the new bracket is on top of the stack, and no other
    have htop : (a = i ∧ b = n) ↔ (b = n ∧ p.Mates a n) := by
      constructor
      · rintro ⟨rfl, rfl⟩
        exact ⟨rfl, hm⟩
      · rintro ⟨rfl, ha⟩
        obtain ⟨rest', hr⟩ := h.stack.eq_cons_of_mates ha
        rw [hs] at hr
        exact ⟨(List.cons.inj hr).1.symm, rfl⟩
    rw [htop]
  · exact h.stray
  · refine h.covers_succ ?_ fun s _ => .inl ⟨i, .inr List.mem_cons_self⟩
    rintro a (⟨j, hj⟩ | ha)
    · exact .inl ⟨j, hj.imp (List.mem_cons_of_mem _) (List.mem_cons_of_mem _)⟩
    · rw [LeavesUnmatched, hs, List.mem_cons] at ha
      rcases ha with (rfl | ha) | ha
      · exact .inl ⟨n, .inl List.mem_cons_self⟩
      · exact .inr (.inl ha)
      · exact .inr (.inr ha)

theorem read_of_ne {x : Instruction} (h : Correct p n t) (hx : p.get? n = some x)
    (ho : x ≠ .opening) (hc : x ≠ .closing) : Correct p (n + 1) (t.read n x) := by
  have hread : t.read n x = t := by cases x <;> first | rfl | contradiction
  rw [hread]
  constructor
  · exact h.stack.append_nested (Program.nested_succ_of_ne hx ho hc)
  · refine h.pairs_of_no_mate fun i hm => hc ?_
    have := hm.closing
    rw [hx] at this
    exact Option.some.inj this
  · exact h.stray
  · refine h.covers_succ (fun i hi => hi) fun s hs => ?_
    rw [hx] at hs
    cases s
    · exact absurd (Option.some.inj hs) ho
    · exact absurd (Option.some.inj hs) hc

/-- **Reading one more instruction keeps a table correct.** -/
theorem read {x : Instruction} (h : Correct p n t) (hx : p.get? n = some x) :
    Correct p (n + 1) (t.read n x) := by
  by_cases ho : x = .opening
  · subst ho
    exact h.read_opening hx
  · by_cases hc : x = .closing
    · subst hc
      cases hs : t.stack with
      | nil => exact h.read_closing_nil hx hs
      | cons i rest => exact h.read_closing_cons hx hs
    · exact h.read_of_ne hx ho hc

theorem readAll {l : List Instruction} (h : Correct p n t) (hl : p.toList.drop n = l) :
    Correct p (n + l.length) (t.readAll n l) := by
  induction l generalizing n t with
  | nil => exact h
  | cons x rest ih =>
      have hx : p.get? n = some x := by
        rw [Program.get?_eq_getElem?_toList, ← List.head?_drop, hl]
        rfl
      have hrest : p.toList.drop (n + 1) = rest := by
        rw [← List.tail_drop, hl]
        rfl
      have := ih (h.read hx) hrest
      rw [List.length_cons, ← Nat.add_assoc, Nat.add_right_comm]
      exact this

end Correct

end JumpTable

namespace Program

theorem correct_jumpTable (p : Program) : JumpTable.Correct p p.length p.jumpTable := by
  have h := (JumpTable.correct_empty p).readAll (l := p.toList) rfl
  rwa [length_toList, Nat.zero_add] at h

/-- In `][[]` the first two brackets have no partner. -/
example : (ofList [.closing, .opening, .opening, .closing]).jumpTable =
    { stack := [1], pairs := [(2, 3)], stray := [0] } := by
  decide

/-! ### The scan and the table -/

theorem mem_pairs_iff {p : Program} {i j : Nat} : (i, j) ∈ p.jumpTable.pairs ↔ p.Mates i j := by
  rw [p.correct_jumpTable.pairs]
  exact ⟨fun h => h.2, fun h => ⟨lt_length_of_get? h.closing, h⟩⟩

theorem pairs_iff_of_opening {p : Program} {i j : Nat} (h : p.get? i = some .opening) :
    p.jumpTable.Pairs i j ↔ p.Mates i j := by
  simp only [JumpTable.Pairs, mem_pairs_iff, or_iff_left_iff_imp]
  intro hm
  have := hm.closing
  rw [h] at this
  cases this

theorem pairs_iff_of_closing {p : Program} {i j : Nat} (h : p.get? i = some .closing) :
    p.jumpTable.Pairs i j ↔ p.Mates j i := by
  simp only [JumpTable.Pairs, mem_pairs_iff, or_iff_right_iff_imp]
  intro hm
  have := hm.opening
  rw [h] at this
  cases this

/-- A bracket is left without a partner when it is paired with nothing. -/
theorem leavesUnmatched_iff {p : Program} {i : Nat} {s : Side}
    (h : p.get? i = some s.instruction) :
    p.jumpTable.LeavesUnmatched i ↔ ∀ j, ¬p.jumpTable.Pairs i j := by
  have hc := p.correct_jumpTable
  constructor
  · rintro (hi | hi) j hj
    · obtain ⟨ho, _, hk⟩ := hc.stack.height_le hi
      have hm := (pairs_iff_of_opening ho).mp hj
      have := hk (j + 1) (by have := hm.lt; omega) (lt_length_of_get? hm.closing)
      have := hm.height_succ
      omega
    · obtain ⟨hcl, hk⟩ := hc.stray i hi
      have hm := (pairs_iff_of_closing hcl).mp hj
      have := hk j (Nat.le_of_lt hm.lt)
      have := hm.height_closing
      omega
  · intro hn
    rcases hc.covers i (lt_length_of_get? h) s h with ⟨j, hj⟩ | hu
    · exact absurd hj (hn j)
    · exact hu

theorem side_direction (s : Side) : s.direction.side = s := by
  cases s <;> rfl

/-- **The scan from a bracket finds what the table pairs it with.** -/
theorem partner_ok_iff_pairs {p : Program} {i j : Nat} {s : Side}
    (h : p.get? i = some s.instruction) :
    p.partner i s.direction = .ok j ↔ p.jumpTable.Pairs i j := by
  cases s with
  | opening => exact (partner_forward_iff_mates h).trans (pairs_iff_of_opening h).symm
  | closing => exact (partner_backward_iff_mates h).trans (pairs_iff_of_closing h).symm

/-- **The scan from a bracket fails where the table leaves it without a partner.** -/
theorem partner_error_iff_unmatched {p : Program} {i : Nat} {s : Side}
    (h : p.get? i = some s.instruction) :
    p.partner i s.direction = .error ⟨i, s⟩ ↔ p.jumpTable.LeavesUnmatched i := by
  rw [partner_eq_error_iff, side_direction, leavesUnmatched_iff h]
  simp only [true_and, ne_eq, partner_ok_iff_pairs h]

/-! ### Pairs and balance -/

/-- Loops do not cross: a loop that opens in the body of another closes there. -/
theorem Mates.lt_of_lt {p : Program} {i j k l : Nat} (h : p.Mates i j) (h' : p.Mates k l)
    (hik : i < k) (hkj : k < j) : l < j := by
  by_contra hlj
  have h₁ := h'.body.above j (by omega) (by omega)
  have h₂ := h.body.above k (by omega) (by omega)
  rw [height_succ_of_opening h'.opening, h.height_closing] at h₁
  rw [height_succ_of_opening h.opening] at h₂
  omega

/-- **Every bracket has a partner exactly when the program is balanced.** -/
theorem balanced_iff_partners {p : Program} :
    (∀ i (s : Side), p.get? i = some s.instruction → ∃ j, p.partner i s.direction = .ok j) ↔
      p.Balanced := by
  rw [Balanced, nested_iff_mates (Nat.zero_le _) (Nat.le_refl _)]
  constructor
  · intro h
    constructor
    · intro i _ _ hi
      obtain ⟨j, hj⟩ := h i .opening hi
      have hm := (partner_forward_iff_mates hi).mp hj
      exact ⟨j, lt_length_of_get? hm.closing, hm⟩
    · intro j _ _ hj
      obtain ⟨i, hi⟩ := h j .closing hj
      exact ⟨i, Nat.zero_le i, (partner_backward_iff_mates hj).mp hi⟩
  · rintro ⟨hopen, hclose⟩ i s hs
    have hlt := lt_length_of_get? hs
    cases s with
    | opening =>
        obtain ⟨j, -, hm⟩ := hopen i (Nat.zero_le i) hlt hs
        exact ⟨j, (partner_forward_iff_mates hs).mpr hm⟩
    | closing =>
        obtain ⟨j, -, hm⟩ := hclose i (Nat.zero_le i) hlt hs
        exact ⟨j, (partner_backward_iff_mates hs).mpr hm⟩

/-- **Scanning on demand is a precomputed jump table**, on every program, well formed or not: a
scan from a bracket finds its partner in the table, and fails, with a report of that bracket, where
the table has none.  Hence the two directions are inverse to each other, pairs do not cross, and
every bracket has a partner exactly when the program is balanced. -/
theorem scan_agrees_with_table (p : Program) :
    (∀ i (s : Side), p.get? i = some s.instruction →
      (∀ j, p.partner i s.direction = .ok j ↔ p.jumpTable.Pairs i j) ∧
      (p.partner i s.direction = .error ⟨i, s⟩ ↔ p.jumpTable.LeavesUnmatched i)) ∧
    (∀ i j, (p.get? i = some .opening ∧ p.partner i .forward = .ok j) ↔
      (p.get? j = some .closing ∧ p.partner j .backward = .ok i)) ∧
    (∀ i j k l, p.get? i = some .opening → p.partner i .forward = .ok j →
      p.get? k = some .opening → p.partner k .forward = .ok l → i < k → k < j → l < j) ∧
    ((∀ i (s : Side), p.get? i = some s.instruction → ∃ j, p.partner i s.direction = .ok j) ↔
      p.Balanced) := by
  refine ⟨fun i s hs => ⟨fun j => partner_ok_iff_pairs hs, partner_error_iff_unmatched hs⟩,
    fun i j => ?_, fun i j k l hi hj hk hl hik hkj => ?_, balanced_iff_partners⟩
  · constructor
    · rintro ⟨hi, hj⟩
      have hm := (partner_forward_iff_mates hi).mp hj
      exact ⟨hm.closing, (partner_backward_iff_mates hm.closing).mpr hm⟩
    · rintro ⟨hj, hi⟩
      have hm := (partner_backward_iff_mates hj).mp hi
      exact ⟨hm.opening, (partner_forward_iff_mates hm.opening).mpr hm⟩
  · have hm := (partner_forward_iff_mates hi).mp hj
    exact hm.lt_of_lt ((partner_forward_iff_mates hk).mp hl) hik hkj

end Program

end TapeMachine
