/-
**The pace of a scheduler.**

A run that is started with some delay is due a tick each time the delay has passed.  Its scheduler
is polled at times that nobody controls, hands out what is due, and drops what exceeds a batch.  The
law that it has to keep is the same for every batch size: no poll hands out more than a batch, the
next tick lies ahead, by one delay at most, and altogether there were never more ticks than delays.

A batch is counted with 64 bits, and the deadline is moved on by a number of delays of 32 bits only.
So the law holds for the batches that 32 bits can count, and fails for all others: a scheduler that
owes as many ticks as 32 bits cannot count hands them out and leaves its deadline behind, so that it
hands them out again.

Main definitions:

* `TapeMachine.Scheduler.poll`, `TapeMachine.Scheduler.polls` — polls in a row, and the number of
  ticks that they hand out;
* `TapeMachine.Within`, `TapeMachine.InStep` — where the deadline lies after so many ticks;
* `TapeMachine.Scheduler.KeepsPace`, `TapeMachine.Scheduler.PaceLaw` — the law, of one poll and of
  a batch size.

Main results:

* `TapeMachine.Within.due`, `TapeMachine.InStep.due` — what a poll makes of the deadline;
* `TapeMachine.Scheduler.paceLaw_exactly_below_tickWord` — **which batch sizes keep the law**.
-/

import Mathlib.Data.List.Chain
import Mathlib.Tactic.ByContra
import TapeMachine.Scheduler

set_option relaxedAutoImplicit false
set_option autoImplicit false

namespace TapeMachine

namespace Scheduler

/-! ### Polls -/

/-- A scheduler that paces a run. -/
def pacing (batch : Nat) (cadence : Cadence) (delay deadline : Nat) : Scheduler :=
  ⟨some ⟨cadence, delay, deadline⟩, batch⟩

/-- A scheduler and the number of ticks it has handed out, after one more poll. -/
def poll (r : Scheduler × Nat) (now : Nat) : Scheduler × Nat :=
  ((r.1.due now).1, r.2 + (r.1.due now).2)

/-- A scheduler after polls at the given times, and the number of ticks that they handed out. -/
def polls (s : Scheduler) (times : List Nat) : Scheduler × Nat := times.foldl poll (s, 0)

theorem start_eq_pacing (s : Scheduler) (cadence : Cadence) (delay t0 : Nat) :
    s.start cadence delay t0 =
      pacing s.maxBatch cadence (clampDelay delay) (t0 + clampDelay delay) := rfl

variable {batch delay deadline now : Nat} {cadence : Cadence}

theorem due_pacing_of_lt (h : now < deadline) :
    (pacing batch cadence delay deadline).due now = (pacing batch cadence delay deadline, 0) :=
  due_of_lt rfl h

/-- A backlog is dropped. -/
theorem due_pacing_of_backlog (h : deadline ≤ now)
    (hb : batch < (now - deadline) / delay + 1) :
    (pacing batch cadence delay deadline).due now =
      (pacing batch cadence delay (now + delay), batch) := by
  simp only [pacing, due, if_neg (Nat.not_lt.mpr h)]
  exact if_pos hb

theorem due_pacing_of_owed (h : deadline ≤ now)
    (hb : (now - deadline) / delay + 1 ≤ batch) :
    (pacing batch cadence delay deadline).due now =
      (pacing batch cadence delay
        (deadline + delay * (((now - deadline) / delay + 1) % tickWord)),
        (now - deadline) / delay + 1) := by
  simp only [pacing, due, if_neg (Nat.not_lt.mpr h)]
  exact if_neg (Nat.not_lt.mpr hb)

/-- **No poll hands out more than a batch**, in whatever state the scheduler is. -/
theorem due_le_maxBatch (s : Scheduler) (now : Nat) : (s.due now).2 ≤ s.maxBatch := by
  unfold due
  split
  · exact Nat.zero_le _
  · split
    · exact Nat.zero_le _
    · dsimp only
      split
      · exact Nat.le_refl _
      · exact Nat.le_of_not_lt ‹_›

end Scheduler

/-! ### Where the deadline lies -/

/-- Of a run that started at `t0`, has had `k` ticks and was polled at `now`, the deadline lies
ahead, by one delay at most, and no earlier than the next tick. -/
structure Within (delay t0 k now deadline : Nat) : Prop where
  ahead : now < deadline
  near : deadline ≤ now + delay
  rate : t0 + (k + 1) * delay ≤ deadline

/-- The deadline is the very time of the next tick: none was dropped. -/
structure InStep (delay t0 k now deadline : Nat) : Prop extends Within delay t0 k now deadline where
  exact : deadline = t0 + (k + 1) * delay

namespace Within

variable {batch delay t0 k last now deadline : Nat}

theorem start (hd : 0 < delay) (t0 : Nat) : Within delay t0 0 t0 (t0 + delay) where
  ahead := by omega
  near := Nat.le_refl _
  rate := by omega

theorem mul_le (h : Within delay t0 k now deadline) : t0 + k * delay ≤ now := by
  have h₁ := h.rate
  have h₂ := h.near
  rw [Nat.succ_mul] at h₁
  omega

/-- Within the pace there were no more ticks than delays. -/
theorem le_div (h : Within delay t0 k now deadline) (hd : 0 < delay) :
    k ≤ (now - t0) / delay := by
  have := h.mul_le
  exact (Nat.le_div_iff_mul_le hd).mpr (by omega)

/-- While time passes up to the deadline, nothing is due. -/
theorem wait (h : Within delay t0 k last deadline) (hle : last ≤ now) (hn : now < deadline) :
    Within delay t0 k now deadline :=
  ⟨hn, Nat.le_trans h.near (Nat.add_le_add_right hle delay), h.rate⟩

/-- After a backlog was dropped, the next tick is one delay ahead, and later than it would be. -/
theorem drop (h : Within delay t0 k last deadline) (hd : 0 < delay) (hn : deadline ≤ now)
    (hb : batch < (now - deadline) / delay + 1) :
    Within delay t0 (k + batch) now (now + delay) where
  ahead := by omega
  near := Nat.le_refl _
  rate := by
    have hq : batch * delay ≤ now - deadline :=
      (Nat.le_div_iff_mul_le hd).mp (Nat.le_of_lt_succ hb)
    have hr := h.rate
    calc t0 + (k + batch + 1) * delay
        = t0 + (k + 1) * delay + batch * delay := by
          rw [Nat.add_right_comm k, Nat.add_mul, Nat.add_assoc]
      _ ≤ deadline + (now - deadline) := Nat.add_le_add hr hq
      _ ≤ now + delay := by omega

/-- After all that is owed was handed out, the next tick is where it has to be. -/
theorem pay (h : Within delay t0 k last deadline) (hd : 0 < delay) (hn : deadline ≤ now) :
    Within delay t0 (k + ((now - deadline) / delay + 1)) now
      (deadline + delay * ((now - deadline) / delay + 1)) := by
  have hdiv := Nat.div_add_mod (now - deadline) delay
  have hmod := Nat.mod_lt (now - deadline) hd
  have hmul : delay * ((now - deadline) / delay + 1) =
      delay * ((now - deadline) / delay) + delay := Nat.mul_succ _ _
  refine ⟨by omega, by omega, ?_⟩
  have hr := h.rate
  calc t0 + (k + ((now - deadline) / delay + 1) + 1) * delay
      = t0 + (k + 1) * delay + delay * ((now - deadline) / delay + 1) := by
        rw [Nat.add_right_comm k, Nat.add_mul, Nat.add_assoc, Nat.mul_comm delay]
    _ ≤ _ := Nat.add_le_add_right hr _

/-- When 32 bits can count what is owed: because they can count a batch, or because the last poll
is not long ago. -/
theorem owed_lt_tickWord (h : Within delay t0 k last deadline) (hd : 0 < delay)
    (hn : deadline ≤ now) (hb : (now - deadline) / delay + 1 ≤ batch)
    (hw : batch < Scheduler.tickWord ∨ now ≤ last + (Scheduler.tickWord - 1) * delay) :
    (now - deadline) / delay + 1 < Scheduler.tickWord := by
  rcases hw with hw | hw
  · exact Nat.lt_of_le_of_lt hb hw
  · have := h.ahead
    have hlt : (now - deadline) / delay < Scheduler.tickWord - 1 :=
      (Nat.div_lt_iff_lt_mul hd).mpr (by omega)
    exact Nat.add_lt_of_lt_sub hlt

/-- **A poll keeps a scheduler within the pace**, if 32 bits can count what is owed. -/
theorem due (cadence : Cadence) (h : Within delay t0 k last deadline) (hd : 0 < delay)
    (hle : last ≤ now)
    (hw : batch < Scheduler.tickWord ∨ now ≤ last + (Scheduler.tickWord - 1) * delay) :
    ∃ j deadline', (Scheduler.pacing batch cadence delay deadline).due now =
        (Scheduler.pacing batch cadence delay deadline', j) ∧
      Within delay t0 (k + j) now deadline' := by
  rcases Nat.lt_or_ge now deadline with hn | hn
  · exact ⟨0, deadline, Scheduler.due_pacing_of_lt hn, h.wait hle hn⟩
  · rcases Nat.lt_or_ge batch ((now - deadline) / delay + 1) with hb | hb
    · exact ⟨batch, now + delay, Scheduler.due_pacing_of_backlog hn hb, h.drop hd hn hb⟩
    · have hdue : (Scheduler.pacing batch cadence delay deadline).due now = _ :=
        Scheduler.due_pacing_of_owed hn hb
      rw [Nat.mod_eq_of_lt (h.owed_lt_tickWord hd hn hb hw)] at hdue
      exact ⟨_, _, hdue, h.pay hd hn⟩

end Within

namespace InStep

variable {batch delay t0 k last now deadline : Nat}

theorem start (hd : 0 < delay) (t0 : Nat) : InStep delay t0 0 t0 (t0 + delay) where
  toWithin := .start hd t0
  exact := by omega

/-- In step there were as many ticks as delays. -/
theorem eq_div (h : InStep delay t0 k now deadline) : k = (now - t0) / delay := by
  have h₁ := h.mul_le
  have h₂ := h.ahead
  have h₃ := h.exact
  refine (Nat.div_eq_of_lt_le ?_ ?_).symm <;> omega

/-- **A poll keeps a scheduler in step**, if the last one is no more than a batch of delays ago. -/
theorem due (cadence : Cadence) (h : InStep delay t0 k last deadline) (hd : 0 < delay)
    (hle : last ≤ now) (hgap : now ≤ last + batch * delay) (hw : batch < Scheduler.tickWord) :
    ∃ j deadline', (Scheduler.pacing batch cadence delay deadline).due now =
        (Scheduler.pacing batch cadence delay deadline', j) ∧
      InStep delay t0 (k + j) now deadline' := by
  have hlast := h.ahead
  have hexact := h.exact
  rcases Nat.lt_or_ge now deadline with hn | hn
  · exact ⟨0, deadline, Scheduler.due_pacing_of_lt hn, h.wait hle hn, hexact⟩
  · -- the deadline lies behind the last poll, so no backlog can have gathered since
    have hb : (now - deadline) / delay + 1 ≤ batch :=
      (Nat.div_lt_iff_lt_mul hd).mpr (by omega)
    have hdue : (Scheduler.pacing batch cadence delay deadline).due now = _ :=
      Scheduler.due_pacing_of_owed hn hb
    rw [Nat.mod_eq_of_lt (Nat.lt_of_le_of_lt hb hw)] at hdue
    refine ⟨_, _, hdue, h.pay hd hn, ?_⟩
    rw [Nat.add_right_comm k, Nat.add_mul, ← Nat.add_assoc, ← hexact, Nat.mul_comm delay]

end InStep

/-! ### The law -/

namespace Scheduler

/-- What a poll at `now` has to do to a run that was started at `t0`, when `r` is what the polls
before it have left of the scheduler, and the number of ticks they handed out. -/
structure KeepsPace (batch delay t0 : Nat) (r : Scheduler × Nat) (now : Nat) : Prop where
  /-- No poll hands out more than a batch. -/
  batch_le : (r.1.due now).2 ≤ batch
  /-- The next tick lies ahead, by one delay at most. -/
  deadline : ∃ next, (r.1.due now).1.deadline? = some next ∧ now < next ∧ next ≤ now + delay
  /-- There were no more ticks than delays. -/
  total_le : r.2 + (r.1.due now).2 ≤ (now - t0) / delay

/-- The law for the scheduler of a batch size: every poll keeps the pace, at whatever times the
polls before it were. -/
def PaceLaw (n : Nat) : Prop :=
  ∀ cadence delay t0 times now, (t0 :: times).IsChain (· ≤ ·) → times.getLastD t0 ≤ now →
    KeepsPace (max n 1) (clampDelay delay) t0
      (((ofMaxBatch n).start cadence delay t0).polls times) now

variable {batch delay t0 k last now deadline : Nat} {cadence : Cadence}

/-- Polls that follow each other as `gap` allows keep what `P` says of the number of ticks, of the
time of the last poll, and of the deadline; and it says at least that the run is within its pace. -/
structure KeptByPolls (batch : Nat) (cadence : Cadence) (delay t0 : Nat) (gap : Nat → Nat → Prop)
    (P : Nat → Nat → Nat → Prop) : Prop where
  within : ∀ {k now deadline}, P k now deadline → Within delay t0 k now deadline
  due : ∀ {k last now deadline}, P k last deadline → gap last now →
    ∃ j next, (pacing batch cadence delay deadline).due now =
        (pacing batch cadence delay next, j) ∧ P (k + j) now next

/-- Polls keep a scheduler within the pace, if they come often enough or its batch is small
enough. -/
theorem keptByPolls_within (cadence : Cadence) (t0 : Nat) (hd : 0 < delay)
    {gap : Nat → Nat → Prop}
    (hgap : ∀ a b, gap a b → a ≤ b ∧ (batch < tickWord ∨ b ≤ a + (tickWord - 1) * delay)) :
    KeptByPolls batch cadence delay t0 gap (Within delay t0) where
  within h := h
  due h hab := h.due cadence hd (hgap _ _ hab).1 (hgap _ _ hab).2

/-- Polls no more than a batch of delays apart keep a scheduler in step. -/
theorem keptByPolls_inStep (cadence : Cadence) (t0 : Nat) (hd : 0 < delay) (hw : batch < tickWord) :
    KeptByPolls batch cadence delay t0 (fun a b => a ≤ b ∧ b ≤ a + batch * delay)
      (InStep delay t0) where
  within h := h.toWithin
  due h hab := h.due cadence hd hab.1 hab.2 hw

theorem KeptByPolls.foldl_poll {gap : Nat → Nat → Prop} {P : Nat → Nat → Nat → Prop}
    (hkept : KeptByPolls batch cadence delay t0 gap P) {times : List Nat}
    (hc : (last :: times).IsChain gap) (h : P k last deadline) :
    ∃ k' next, times.foldl poll (pacing batch cadence delay deadline, k) =
        (pacing batch cadence delay next, k') ∧ P k' (times.getLastD last) next := by
  induction times generalizing last k deadline with
  | nil => exact ⟨k, deadline, rfl, h⟩
  | cons now rest ih =>
      rw [List.isChain_cons_cons] at hc
      obtain ⟨j, next, hdue, hnext⟩ := hkept.due h hc.1
      obtain ⟨k', next', hpolls, hlast⟩ := ih hc.2 hnext
      refine ⟨k', next', ?_, ?_⟩
      · rw [List.foldl_cons, ← hpolls, poll, hdue]
      · rwa [List.getLastD_cons]

theorem Within.keepsPace (hd : 0 < delay) (h : Within delay t0 k last deadline)
    (hle : last ≤ now) (hw : batch < tickWord ∨ now ≤ last + (tickWord - 1) * delay) :
    KeepsPace batch delay t0 (pacing batch cadence delay deadline, k) now := by
  obtain ⟨j, next, hdue, hwithin⟩ := h.due cadence hd hle hw
  refine ⟨due_le_maxBatch _ now, ⟨next, ?_, hwithin.ahead, hwithin.near⟩, ?_⟩
  · rw [hdue]
    rfl
  · rw [hdue]
    exact hwithin.le_div hd

theorem maxBatch_foldl_poll (r : Scheduler × Nat) (times : List Nat) :
    (times.foldl poll r).1.maxBatch = r.1.maxBatch := by
  induction times generalizing r with
  | nil => rfl
  | cons now rest ih => rw [List.foldl_cons, ih, poll, maxBatch_due]

theorem keepsPace_of_gap {n delay : Nat} {gap : Nat → Nat → Prop}
    (hgap : ∀ a b, gap a b → a ≤ b ∧
      (max n 1 < tickWord ∨ b ≤ a + (tickWord - 1) * clampDelay delay))
    (cadence : Cadence) {t0 now : Nat} {times : List Nat} (hc : (t0 :: times).IsChain gap)
    (hnow : gap (times.getLastD t0) now) :
    KeepsPace (max n 1) (clampDelay delay) t0
      (((ofMaxBatch n).start cadence delay t0).polls times) now := by
  have hd := clampDelay_pos delay
  obtain ⟨k, deadline, hpolls, hwithin⟩ :=
    (keptByPolls_within cadence t0 hd hgap).foldl_poll hc (.start hd t0)
  have hstart : (ofMaxBatch n).start cadence delay t0 =
      pacing (max n 1) cadence (clampDelay delay) (t0 + clampDelay delay) := rfl
  rw [hstart, polls, hpolls]
  obtain ⟨hle, hw⟩ := hgap _ _ hnow
  exact Within.keepsPace hd hwithin hle hw

/-- A batch that 32 bits can count keeps the law. -/
theorem paceLaw_of_lt {n : Nat} (h : n < tickWord) : PaceLaw n := by
  intro cadence delay t0 times now hc hnow
  have hbatch : max n 1 < tickWord := Nat.max_lt.mpr ⟨h, by decide⟩
  exact keepsPace_of_gap (fun a b hab => ⟨hab, .inl hbatch⟩) cadence hc hnow

/-- As many ticks as 32 bits cannot count are handed out, and the deadline stays where it was. -/
theorem due_tickWord {n : Nat} (h : tickWord ≤ n) :
    ((ofMaxBatch n).start .normal minDelay 0).due (tickWord * minDelay) =
      ((ofMaxBatch n).start .normal minDelay 0, tickWord) := by
  have hstart : (ofMaxBatch n).start .normal minDelay 0 =
      pacing (max n 1) .normal minDelay minDelay := rfl
  have howed : (tickWord * minDelay - minDelay) / minDelay + 1 = tickWord := by decide
  have hdue : (pacing (max n 1) .normal minDelay minDelay).due (tickWord * minDelay) = _ :=
    due_pacing_of_owed (by decide) (howed.symm ▸ Nat.le_trans h (Nat.le_max_left n 1))
  rw [howed, Nat.mod_self, Nat.mul_zero, Nat.add_zero] at hdue
  rw [hstart, hdue]

/-- A batch that 32 bits cannot count breaks the law. -/
theorem not_paceLaw_of_le {n : Nat} (h : tickWord ≤ n) : ¬PaceLaw n := by
  intro hlaw
  have hpoll := hlaw .normal minDelay 0 [] (tickWord * minDelay) (.singleton 0) (Nat.zero_le _)
  obtain ⟨next, hnext, hahead, _⟩ := hpoll.deadline
  rw [polls, List.foldl_nil, due_tickWord h] at hnext
  cases hnext
  exact absurd hahead (by decide)

/-- **The law holds for the batches that 32 bits can count, and for no others.**  No batch size lets
a poll hand out more than a batch; every batch size keeps the law as long as no two polls are
`2 ^ 32` delays apart; but only below `2 ^ 32` does the batch size alone make sure of it. -/
theorem paceLaw_exactly_below_tickWord (n : Nat) :
    (∀ cadence delay t0 times now,
      ((((ofMaxBatch n).start cadence delay t0).polls times).1.due now).2 ≤ max n 1) ∧
    (∀ cadence delay t0 times now,
      (t0 :: times).IsChain (fun a b => a ≤ b ∧ b ≤ a + (tickWord - 1) * clampDelay delay) →
      times.getLastD t0 ≤ now → now ≤ times.getLastD t0 + (tickWord - 1) * clampDelay delay →
      KeepsPace (max n 1) (clampDelay delay) t0
        (((ofMaxBatch n).start cadence delay t0).polls times) now) ∧
    (PaceLaw n ↔ n < tickWord) := by
  refine ⟨fun cadence delay t0 times now => ?_, fun cadence delay t0 times now hc hle hgap => ?_,
    fun h => ?_, paceLaw_of_lt⟩
  · have hbatch := due_le_maxBatch (((ofMaxBatch n).start cadence delay t0).polls times).1 now
    rwa [polls, maxBatch_foldl_poll] at hbatch
  · exact keepsPace_of_gap (fun a b hab => ⟨hab.1, .inr hab.2⟩) cadence hc ⟨hle, hgap⟩
  · by_contra hn
    exact not_paceLaw_of_le (Nat.le_of_not_lt hn) h

/-- A scheduler with a batch of `2 ^ 33` that is started at the shortest delay and not polled for
`2 ^ 32` delays hands out all of these ticks at the first poll and, at the same time, all of them
again at the second. -/
theorem ticks_handed_out_twice :
    ((ofMaxBatch 8589934592).start .normal 100000 0).polls [429496729600000, 429496729600000] =
        ((ofMaxBatch 8589934592).start .normal 100000 0, 8589934592) ∧
      (429496729600000 - 0) / clampDelay 100000 = 4294967296 ∧ ¬PaceLaw 8589934592 :=
  ⟨by decide, by decide, not_paceLaw_of_le (by decide)⟩

end Scheduler

end TapeMachine
