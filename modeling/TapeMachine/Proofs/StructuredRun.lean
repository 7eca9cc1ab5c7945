/-
**The engine runs structured programs.**

The engine knows no loops.  It resolves a bracket by a scan when the bracket has to jump, and it
jumps behind the partner without looking at the guard there.  Still it does on the instructions of a
block what the block means, and it runs forever exactly when the block has no meaning.

Two observations carry the proof.  A state that has run off the end is an ordinary state between two
instructions, with the position of the last instruction and the mark that the run is over; and the
two brackets of a loop make the same decision: on zero control continues behind the loop, on
anything else in its body, no matter at which of the two it stands.  So a loop may be entered at
either bracket, and the way back from the closing bracket is a loop entered anew.

Main definitions:

* `TapeMachine.State.Shows` — the data of a state are those of a store;
* `TapeMachine.State.Stands` — control is about to continue at a position;
* `TapeMachine.Block.Entry` — the positions at which a block may be entered.

Main results:

* `TapeMachine.State.Stands.command`, `TapeMachine.State.Stands.loop` — a step at a command and at
  either bracket of a loop;
* `TapeMachine.Block.Runs.reach` — what a block means the engine does;
* `TapeMachine.State.Stands.runs_of_done` — what the engine does to its end the block means;
* `TapeMachine.Block.engine_runs_block` — **the engine implements structured programs**, runs that
  do not end included.
-/

import Mathlib.Data.Fin.Basic
import TapeMachine.Proofs.Block
import TapeMachine.Proofs.Validity

set_option relaxedAutoImplicit false
set_option autoImplicit false

namespace TapeMachine

variable {m : Machine}

/-! ### States and stores -/

/-- The byte that stores a value below the modulus. -/
def Machine.byte (v : Fin m.modulus) : UInt8 := UInt8.ofNat v.val

@[simp] theorem Machine.toNat_byte (v : Fin m.modulus) : (Machine.byte v).toNat = v.val := by
  have h₁ := v.isLt
  have h₂ := m.modulus_le
  simp only [Machine.byte, UInt8.toNat_ofNat']
  exact Nat.mod_eq_of_lt (by omega)

theorem Machine.byte_injective {v w : Fin m.modulus} (h : Machine.byte v = Machine.byte w) :
    v = w := by
  have h := congrArg UInt8.toNat h
  rw [toNat_byte, toNat_byte] at h
  exact Fin.ext h

theorem Machine.byte_eq_zero_iff {v : Fin m.modulus} : Machine.byte v = 0 ↔ v = 0 := by
  rw [← UInt8.toNat_inj, toNat_byte, UInt8.toNat_zero, ← Fin.val_eq_zero_iff]

namespace State

/-- The data of the state are those of the store: every cell, the pointer, and a log of the values
emitted, without a fault. -/
structure Shows (s : State) (d : Store m) : Prop where
  capacity : s.tape.capacity = m.capacity
  modulus : s.tape.modulus = m.modulus
  cell : ∀ i : Fin m.capacity, s.tape.get? i = some (Machine.byte (d.cells i))
  pointer : s.pointer = d.pointer
  log : s.log.toList = d.output.map fun v => .value (Machine.byte v)

theorem shows_start (p : Program) (m : Machine) : (start p m).Shows (Store.blank m) where
  capacity := rfl
  modulus := rfl
  cell i := by
    rw [start, Tape.get?_blank, if_pos i.isLt, Store.blank, Machine.byte_eq_zero_iff.mpr rfl]
  pointer := rfl
  log := rfl

namespace Shows

variable {s : State} {d : Store m}

/-- A state shows at most one store. -/
theorem unique {e : Store m} (h : s.Shows d) (h' : s.Shows e) : d = e := by
  refine Store.ext (funext fun i => ?_) (Fin.ext ?_) ?_
  · have := h.cell i
    rw [h'.cell i] at this
    exact (Machine.byte_injective (Option.some.inj this)).symm
  · rw [← h.pointer, h'.pointer]
  · have := h.log
    rw [h'.log] at this
    refine ((List.map_inj_right ?_).mp this).symm
    intro v w hvw
    exact Machine.byte_injective (Event.value.inj hvw)

theorem cell? (h : s.Shows d) : s.cell? = some (Machine.byte d.cell) := by
  rw [State.cell?, h.pointer, h.cell]
  rfl

/-- Values are no faults. -/
theorem fault? (h : s.Shows d) : s.fault? = none := by
  rw [State.fault?, h.log, List.findSome?_eq_none_iff]
  intro e he
  rw [List.mem_reverse, List.mem_map] at he
  obtain ⟨v, _, rfl⟩ := he
  rfl

theorem write (h : s.Shows d) {v : Fin m.modulus} {before after : UInt8}
    (hv : after = Machine.byte v) :
    (s.perform (.changed s.pointer before after)).Shows (d.write v) where
  capacity := (Tape.capacity_set _ _ _).trans h.capacity
  modulus := (Tape.modulus_set _ _ _).trans h.modulus
  cell i := by
    have hptr : s.pointer < s.tape.capacity := by
      rw [h.capacity, h.pointer]
      exact d.pointer.isLt
    simp only [perform, Store.write, Tape.get?_set, hptr, and_true]
    by_cases hi : i = d.pointer
    · rw [hi, if_pos h.pointer, Function.update_self, hv]
    · have hne : s.pointer ≠ i := by
        rw [h.pointer]
        exact fun hp => hi (Fin.ext hp.symm)
      rw [if_neg hne, Function.update_of_ne hi, h.cell]
  pointer := h.pointer
  log := h.log

theorem move (h : s.Shows d) {target i : Nat} (ht : target = min i (m.capacity - 1)) :
    (s.perform (.moved target)).Shows (d.move i) :=
  ⟨h.capacity, h.modulus, h.cell, ht, h.log⟩

theorem succ_byte (h : s.Shows d) (v : Fin m.modulus) :
    s.tape.succ (Machine.byte v) = Machine.byte (v + 1) := by
  have h₁ := m.two_le_modulus
  have h₂ := m.modulus_le
  rw [← UInt8.toNat_inj, Tape.toNat_succ _ _ (by rw [h.modulus]; omega) (by rw [h.modulus]; omega),
    Machine.toNat_byte, Machine.toNat_byte, h.modulus, Fin.val_add, Fin.val_one', Nat.add_mod_mod]

theorem pred_byte (h : s.Shows d) (v : Fin m.modulus) :
    s.tape.pred (Machine.byte v) = Machine.byte (v - 1) := by
  have h₁ := m.two_le_modulus
  have h₂ := m.modulus_le
  rw [← UInt8.toNat_inj, Tape.toNat_pred _ _ (by rw [h.modulus]; omega) (by rw [h.modulus]; omega),
    Machine.toNat_byte, Machine.toNat_byte, h.modulus, Fin.val_sub, Fin.val_one',
    Nat.mod_eq_of_lt (by omega : 1 < m.modulus)]
  congr 1
  omega

/-- **The effect of a command is its meaning.** -/
theorem command (h : s.Shows d) (p : Program) (c : Command) :
    ∃ e, s.effect p (Machine.byte d.cell) c.instruction = .ok e ∧
      e.next s.position = s.position + 1 ∧ (s.perform e).Shows (c.run d) := by
  cases c with
  | right =>
      refine ⟨_, rfl, rfl, h.move ?_⟩
      rw [h.pointer, h.capacity]
  | left =>
      refine ⟨_, rfl, rfl, h.move ?_⟩
      have := d.pointer.isLt
      rw [h.pointer]
      omega
  | increment => exact ⟨_, rfl, rfl, h.write (h.succ_byte d.cell)⟩
  | decrement => exact ⟨_, rfl, rfl, h.write (h.pred_byte d.cell)⟩
  | output =>
      refine ⟨_, rfl, rfl, h.capacity, h.modulus, h.cell, h.pointer, ?_⟩
      simp [perform, Command.run, h.log]
  | input => exact ⟨_, rfl, rfl, h⟩

end Shows

/-! ### Between two instructions -/

/-- Control is about to continue at position `q`, with the data of the store.  When `q` is the end
of the program, the run is over and the position that of the last instruction. -/
structure Stands (p : Program) (s : State) (q : Nat) (d : Store m) : Prop where
  data : s.Shows d
  position : s.position = if q = p.length then p.length - 1 else q
  done : s.done = decide (q = p.length)

theorem stands_start (p : Program) (m : Machine) : (start p m).Stands p 0 (Store.blank m) where
  data := shows_start p m
  position := by
    show 0 = if 0 = p.length then p.length - 1 else 0
    split <;> omega
  done := by
    rw [Bool.eq_iff_iff, start, p.isEmpty_iff, decide_eq_true_eq, eq_comm]

namespace Stands

variable {p : Program} {s : State} {q : Nat} {d : Store m}

theorem going (h : s.Stands p q d) (hq : q < p.length) : s.position = q ∧ s.done = false := by
  have hne : q ≠ p.length := Nat.ne_of_lt hq
  refine ⟨by rw [h.position, if_neg hne], ?_⟩
  rw [h.done, decide_eq_false hne]

/-- A step that applies an effect leads to where the effect sends control. -/
theorem next {x : Instruction} {e : Effect} {d' : Store m} (h : s.Stands p q d)
    (hx : p.get? q = some x) (he : s.effect p (Machine.byte d.cell) x = .ok e)
    (hd : (s.perform e).Shows d') :
    ∃ t, s.next p = .ok t ∧ t.Stands p (e.next q) d' := by
  have hq := Program.lt_length_of_get? hx
  obtain ⟨hpos, hgoing⟩ := h.going hq
  have hn : e.next s.position ≤ p.length := effect_next_le (by rw [hpos]; exact hq) he
  have hfetch : p.get? s.position = some x := by
    rw [hpos]
    exact hx
  have hs := step_eq_ok_iff.mpr (.applied hgoing hfetch h.data.cell? he hn)
  refine ⟨_, next_eq_ok_iff.mpr ⟨_, hs⟩, ?_, ?_, ?_⟩
  · exact ⟨hd.capacity, hd.modulus, hd.cell, hd.pointer, hd.log⟩
  · rw [hpos]
    rfl
  · rw [hpos]
    rfl

/-- **A step at a command** carries it out and continues behind it. -/
theorem command {c : Command} (h : s.Stands p q d) (hx : p.get? q = some c.instruction) :
    ∃ t, s.next p = .ok t ∧ t.Stands p (q + 1) (c.run d) := by
  obtain ⟨e, he, hn, hd⟩ := h.data.command p c
  obtain ⟨t, ht, hst⟩ := h.next hx he hd
  have hpos := (h.going (Program.lt_length_of_get? hx)).1
  rw [hpos] at hn
  rw [hn] at hst
  exact ⟨t, ht, hst⟩

/-- A bracket whose guard does not hold is passed. -/
theorem pass {side : Side} (h : s.Stands p q d) (hx : p.get? q = some side.instruction)
    (hg : side.guard (Machine.byte d.cell) = false) :
    ∃ t, s.next p = .ok t ∧ t.Stands p (q + 1) d := by
  refine h.next hx ?_ (e := .passed) h.data
  rw [effect_instruction]
  exact branch_eq_ok_iff.mpr (.inl ⟨hg, rfl⟩)

/-- A bracket whose guard holds sends control behind its partner. -/
theorem jump {side : Side} {j : Nat} (h : s.Stands p q d)
    (hx : p.get? q = some side.instruction) (hg : side.guard (Machine.byte d.cell) = true)
    (hj : p.partner q side.direction = .ok j) :
    ∃ t, s.next p = .ok t ∧ t.Stands p (j + 1) d := by
  refine h.next hx ?_ (e := .jumped j) h.data
  have hpos := (h.going (Program.lt_length_of_get? hx)).1
  rw [effect_instruction, branch_eq_ok_iff, hpos]
  exact .inr ⟨hg, j, hj, rfl⟩

/-- **The two brackets of a loop make the same decision**: from either of them control continues
behind the loop when the current cell is zero, and else at the beginning of the body. -/
theorem loop {i j : Nat} (hm : p.Mates i j) (h : s.Stands p q d) (hq : q = i ∨ q = j) :
    ∃ t, s.next p = .ok t ∧ t.Stands p (if d.cell = 0 then j + 1 else i + 1) d := by
  have ho : p.get? i = some Side.opening.instruction := hm.opening
  have hc : p.get? j = some Side.closing.instruction := hm.closing
  by_cases hd : d.cell = 0
  · have hz := Machine.byte_eq_zero_iff.mpr hd
    rw [if_pos hd]
    rcases hq with rfl | rfl
    · exact h.jump ho (by simp [Side.guard, hz]) ((Program.partner_forward_iff_mates ho).mpr hm)
    · exact h.pass hc (by simp [Side.guard, hz])
  · have hz : Machine.byte d.cell ≠ 0 := fun hz => hd (Machine.byte_eq_zero_iff.mp hz)
    rw [if_neg hd]
    rcases hq with rfl | rfl
    · exact h.pass ho (by simp [Side.guard, hz])
    · exact h.jump hc (by simp [Side.guard, hz]) ((Program.partner_backward_iff_mates hc).mpr hm)

end Stands

end State

/-! ### What a block means the engine does -/

namespace Block

/-- The positions at which a block that stands at `q` may be entered: its beginning, and for a loop
the closing bracket too. -/
def Entry (q r : Nat) : Block → Prop
  | loop body _ => r = q ∨ r = q + 1 + body.flatten.length
  | _ => r = q

theorem entry_self (b : Block) (q : Nat) : b.Entry q q := by
  cases b with
  | loop body rest => exact .inl rfl
  | nil | command c rest => rfl

/-- **What a block means the engine does**, wherever the block stands in a program. -/
theorem Runs.reach {b : Block} {d e : Store m} (h : b.Runs d e) :
    ∀ {p : Program} {q r : Nat} {s : State}, p.Holds q b.flatten → b.Entry q r →
      s.Stands p r d → ∃ n t, s.after p n = .ok t ∧ t.Stands p (q + b.flatten.length) e := by
  induction h with
  | nil d =>
      intro p q r s _ hr hs
      cases hr
      exact ⟨0, s, rfl, hs⟩
  | @command c rest d e _ ih =>
      intro p q r s hp hr hs
      cases hr
      obtain ⟨t, ht, hst⟩ := hs.command hp.1
      obtain ⟨n, u, hu, hsu⟩ := ih hp.2 (rest.entry_self _) hst
      rw [end_command]
      exact ⟨n + 1, u, (State.after_succ_of_next ht n).trans hu, hsu⟩
  | @skip body rest d e zero _ ih =>
      intro p q r s hp hr hs
      obtain ⟨_, _, _, hrest⟩ := hp.loop
      obtain ⟨t, ht, hst⟩ := hs.loop hp.mates hr
      rw [if_pos zero] at hst
      obtain ⟨n, u, hu, hsu⟩ := ih hrest (rest.entry_self _) hst
      rw [end_loop]
      exact ⟨n + 1, u, (State.after_succ_of_next ht n).trans hu, hsu⟩
  | @again body rest d e f nonzero _ _ ihbody ihloop =>
      intro p q r s hp hr hs
      obtain ⟨_, hbody, _, _⟩ := hp.loop
      obtain ⟨t, ht, hst⟩ := hs.loop hp.mates hr
      rw [if_neg nonzero] at hst
      obtain ⟨n₁, u, hu, hsu⟩ := ihbody hbody (body.entry_self _) hst
      -- the body ends at the closing bracket: the loop is entered anew, there
      obtain ⟨n₂, v, hv, hsv⟩ := ihloop hp (.inr rfl) hsu
      refine ⟨n₁ + n₂ + 1, v, ?_, hsv⟩
      rw [State.after_succ_of_next ht, State.after_add hu]
      exact hv

end Block

/-! ### What the engine does the block means -/

namespace State.Stands

/-- A run that ends, from a state that stands on an instruction, begins with a step. -/
theorem peel {p : Program} {q n : Nat} {s t v : State} {d : Store m} {x : Instruction}
    (h : s.Stands p q d) (hx : p.get? q = some x) (hv : s.next p = .ok v)
    (hn : s.after p n = .ok t) (hd : t.done = true) : ∃ k, n = k + 1 ∧ v.after p k = .ok t := by
  cases n with
  | zero =>
      cases hn
      rw [(h.going (Program.lt_length_of_get? hx)).2] at hd
      cases hd
  | succ k =>
      rw [after_succ_of_next hv] at hn
      exact ⟨k, rfl, hn⟩

/-- **A run of the engine that ends has run the block to its end**, and the block means what it
did.  The induction is on the length of the run: every bracket costs a step, also the one at which
a loop is entered anew. -/
theorem runs_of_done {p : Program} (n : Nat) :
    ∀ {b : Block} {q r : Nat} {s t : State} {d : Store m}, p.Holds q b.flatten → b.Entry q r →
      s.Stands p r d → s.after p n = .ok t → t.done = true →
      ∃ e k u, b.Runs d e ∧ k ≤ n ∧ s.after p k = .ok u ∧
        u.Stands p (q + b.flatten.length) e := by
  induction n using Nat.strongRecOn with
  | _ n ih =>
      intro b q r s t d hp hr hs hn hd
      cases b with
      | nil =>
          cases hr
          exact ⟨d, 0, s, .nil d, Nat.zero_le n, rfl, hs⟩
      | command c rest =>
          cases hr
          obtain ⟨v, hv, hsv⟩ := hs.command hp.1
          obtain ⟨k, rfl, hk⟩ := hs.peel hp.1 hv hn hd
          obtain ⟨e, i, u, hrun, hi, hu, hsu⟩ :=
            ih k (Nat.lt_succ_self k) hp.2 (rest.entry_self _) hsv hk hd
          rw [Block.end_command]
          exact ⟨e, i + 1, u, .command hrun, by omega, (after_succ_of_next hv i).trans hu, hsu⟩
      | loop body rest =>
          obtain ⟨ho, hbody, hc, hrest⟩ := hp.loop
          obtain ⟨v, hv, hsv⟩ := hs.loop hp.mates hr
          obtain ⟨k, rfl, hk⟩ : ∃ k, n = k + 1 ∧ v.after p k = .ok t := by
            rcases hr with rfl | rfl
            · exact hs.peel ho hv hn hd
            · exact hs.peel hc hv hn hd
          by_cases hz : d.cell = 0
          · rw [if_pos hz] at hsv
            obtain ⟨e, i, u, hrun, hi, hu, hsu⟩ :=
              ih k (Nat.lt_succ_self k) hrest (rest.entry_self _) hsv hk hd
            rw [Block.end_loop]
            exact ⟨e, i + 1, u, .skip hz hrun, by omega, (after_succ_of_next hv i).trans hu, hsu⟩
          · rw [if_neg hz] at hsv
            obtain ⟨e, i, u, hrun, hi, hu, hsu⟩ :=
              ih k (Nat.lt_succ_self k) hbody (body.entry_self _) hsv hk hd
            -- what is left of the run begins at the closing bracket
            have hleft : u.after p (k - i) = .ok t := by
              rw [← after_add hu, Nat.add_sub_cancel' hi]
              exact hk
            obtain ⟨f, j, w, hagain, hj, hw, hsw⟩ :=
              ih (k - i) (by omega) (b := .loop body rest) hp (.inr rfl) hsu hleft hd
            refine ⟨f, i + j + 1, w, .again hz hrun hagain, by omega, ?_, hsw⟩
            rw [after_succ_of_next hv, after_add hu]
            exact hw

end State.Stands

namespace Block

/-- What the block means the engine ends with. -/
theorem Runs.exists_done {b : Block} {d : Store m} (h : b.Runs (Store.blank m) d) :
    ∃ n s, (State.start b.program m).after b.program n = .ok s ∧ s.done = true ∧ s.Shows d := by
  obtain ⟨n, s, hs, hst⟩ :=
    h.reach (Program.holds_program b) (b.entry_self 0) (State.stands_start b.program m)
  refine ⟨n, s, hs, ?_, hst.data⟩
  rw [hst.done, length_program, Nat.zero_add]
  exact decide_eq_true rfl

/-- What the engine ends with the block means. -/
theorem exists_runs_of_done {b : Block} {n : Nat} {s : State}
    (hs : (State.start b.program m).after b.program n = .ok s) (hd : s.done = true) :
    ∃ d : Store m, b.Runs (Store.blank m) d ∧ s.Shows d := by
  obtain ⟨d, k, u, hrun, _, hu, hsu⟩ := (State.stands_start b.program m).runs_of_done n
    (Program.holds_program b) (b.entry_self 0) hs hd
  have hud : u.done = true := by
    rw [hsu.done, length_program, Nat.zero_add]
    exact decide_eq_true rfl
  rw [State.after_done_unique hs hu hd hud]
  exact ⟨d, hrun, hsu.data⟩

/-- **The engine implements structured programs.**  A block means a store exactly when stepping
through its instructions, from the state they start in, comes to an end, and then the state at the
end shows that store and no fault was entered; and a block means nothing exactly when every number
of steps can be taken and none of them ends the run. -/
theorem engine_runs_block (m : Machine) (b : Block) :
    (∀ d : Store m, b.Runs (Store.blank m) d ↔
      ∃ n s, (State.start b.program m).after b.program n = .ok s ∧ s.done = true ∧
        s.fault? = none ∧ s.Shows d) ∧
    (∀ n s, (State.start b.program m).after b.program n = .ok s → s.done = true →
      ∃ d : Store m, b.Runs (Store.blank m) d ∧ s.fault? = none ∧ s.Shows d) ∧
    ((¬∃ d : Store m, b.Runs (Store.blank m) d) ↔
      ∀ n, ∃ s, (State.start b.program m).after b.program n = .ok s ∧ s.done = false) := by
  refine ⟨fun d => ⟨fun h => ?_, ?_⟩, fun n s hs hd => ?_, fun h n => ?_, ?_⟩
  · obtain ⟨n, s, hs, hd, hshow⟩ := h.exists_done
    exact ⟨n, s, hs, hd, hshow.fault?, hshow⟩
  · rintro ⟨n, s, hs, hd, _, hshow⟩
    obtain ⟨e, hrun, hshow'⟩ := exists_runs_of_done hs hd
    rw [hshow.unique hshow']
    exact hrun
  · obtain ⟨d, hrun, hshow⟩ := exists_runs_of_done hs hd
    exact ⟨d, hrun, hshow.fault?, hshow⟩
  · obtain ⟨s, hs, _⟩ := State.exists_after_valid b.program m n
    refine ⟨s, hs, ?_⟩
    cases hd : s.done with
    | false => rfl
    | true =>
        obtain ⟨d, hrun, _⟩ := exists_runs_of_done (m := m) hs hd
        exact absurd ⟨d, hrun⟩ h
  · rintro hforever ⟨d, hrun⟩
    obtain ⟨n, s, hs, hd, _⟩ := hrun.exists_done
    obtain ⟨t, ht, hgoing⟩ := hforever n
    rw [hs] at ht
    cases ht
    rw [hd] at hgoing
    cases hgoing

end Block

end TapeMachine
