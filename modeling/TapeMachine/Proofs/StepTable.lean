/-
**The table of the steps.**

A row of the table is put together from two histories: position, instruction and action are those
that the outcome of the step tells, while pointer and cell were remembered when the step before was
shown.  Here both are brought back to one state: in the row of a step everything but the action is
read off the state before the step.  The induction is on the trace of the run, and what it carries
along is that the pointer and the cell that are remembered are those of the state that is reached.

The values that the same run prints without a table are in the table as well.  They are read back
from the text of the rows, from what stands behind the last bar.

Main definitions:

* `TapeMachine.Outcome.told` — what a row tells of a step;
* `TapeMachine.Command.rowOf`, `TapeMachine.Command.rowsOf` — the row of a step, by the state before
  it, and the rows of several steps;
* `TapeMachine.Command.tableText` — the table with the given rows;
* `TapeMachine.Command.toldValue?` — the value that a row tells of;
* `TapeMachine.Command.Job.untraced` — the same job without the table.

Main results:

* `TapeMachine.Command.tableRow_of_step` — **the row of a step is about the state before it**;
* `TapeMachine.Command.rows_foldl_observe` — the rows of a run;
* `TapeMachine.Command.toldValue?_rowOf` — what is read back from a row;
* `TapeMachine.Command.table_shows_every_step` — **the table of a run**.
-/

import TapeMachine.Proofs.RunReport

set_option relaxedAutoImplicit false
set_option autoImplicit false

namespace TapeMachine

/-- What a row tells of a step: its effect, or its fault. -/
def Outcome.told : Outcome → String
  | .frozen => ""
  | .applied _ _ effect _ => effect.text
  | .faulted u => u.message

namespace Command

open State (Trace)
open Text

/-! ### Rows -/

/-- The instruction at a position, as it is spelled. -/
def instructionAt (p : Program) (i : Nat) : String :=
  (p.get? i).elim "" fun x => String.singleton x.toChar

/-- The row of the step that is taken in a state: its number, the position, the pointer and the cell
of the state, the instruction at the position, and what the step did. -/
def rowOf (p : Program) (number : Nat) (s : State) (o : Outcome) : String :=
  column 4 (toString number) ++ " | " ++ column 3 (toString s.position) ++ " | " ++
    column 3 (toString s.pointer) ++ " | " ++ column 4 (toString s.cell.toNat) ++ " |  " ++
    instructionAt p s.position ++ "    | " ++ o.told

/-- The rows of the steps that are taken from a state on, numbered from `number` on. -/
def rowsOf (p : Program) : Nat → State → List (State × Outcome) → List String
  | _, _, [] => []
  | number, s, (t, o) :: rest => rowOf p number s o :: rowsOf p (number + 1) t rest

/-- The table with the given rows. -/
def tableText (rows : List String) : String := String.join ((tableHead ++ rows).map (· ++ "\n"))

section Rows

variable {p : Program} {s t u : State} {o : Outcome} {number : Nat}
  {calls : List (State × Outcome)}

theorem length_rowsOf (number : Nat) (s : State) (calls : List (State × Outcome)) :
    (rowsOf p number s calls).length = calls.length := by
  induction calls generalizing number s with
  | nil => rfl
  | cons c rest ih => exact congrArg Nat.succ (ih (number + 1) c.1)

/-- The rows of a trace, one by one: each is the row of the step from the state reached so far. -/
theorem getElem?_rowsOf (h : Trace p s calls u) (number : Nat) {i : Nat} (hi : i < calls.length) :
    ∃ r, s.after p i = .ok r ∧ r.step p = .ok calls[i] ∧
      (rowsOf p number s calls)[i]? = some (rowOf p (number + i) r calls[i].2) := by
  induction h generalizing number i with
  | nil s => cases hi
  | @cons s t u o rest going step tail ih =>
      cases i with
      | zero => exact ⟨s, rfl, step, rfl⟩
      | succ i =>
          obtain ⟨r, hr, hstep, hrow⟩ := ih (number + 1) (Nat.lt_of_succ_lt_succ hi)
          rw [Nat.succ_add_eq_add_succ] at hrow
          refine ⟨r, ?_, hstep, hrow⟩
          rw [State.after_succ_of_step step]
          exact hr

/-! ### What is observed -/

/-- **The row of a step is about the state before it.** -/
theorem tableRow_of_step (going : s.done = false) (h : s.step p = .ok (t, o)) (number : Nat) :
    (stepCells? o).map (tableRow false number s.pointer s.cell) = some (rowOf p number s o) := by
  cases State.step_eq_ok_iff.mp h with
  | frozen ended =>
      rw [going] at ended
      cases ended
  | @faulted x cell f _ fetch read effect =>
      obtain ⟨side, rfl, -, hpartner⟩ := State.effect_eq_error_iff.mp effect
      obtain ⟨rfl, -⟩ := (Program.partner_eq_error_iff_stray fetch).mp hpartner
      rw [rowOf, instructionAt, fetch]
      rfl
  | @applied x cell e _ fetch read effect inside =>
      rw [rowOf, instructionAt, fetch]
      rfl

/-- **The rows of a run**: while it is observed, the pointer and the cell that are remembered are
those of the state that is reached. -/
theorem rows_foldl_observe {job : Job} (plain : job.color = false) (traced : job.trace = true)
    (filter : Log.StepFilter) (h : Trace p s calls u) {t : Transcript}
    (hpointer : t.pointer = s.pointer) (hcell : t.cell = s.cell) :
    (calls.foldl (fun t c => t.observe job filter c.1 c.2) t).rows =
      (rowsOf p t.count s calls).reverse ++ t.rows := by
  induction h generalizing t with
  | nil s => rfl
  | @cons s v u o rest going step tail ih =>
      have hrow := tableRow_of_step going step t.count
      obtain ⟨cells, hcells, hrow⟩ := Option.map_eq_some_iff.mp hrow
      have hobserve : t.observe job filter v o =
          { rows := rowOf p t.count s o :: t.rows
            count := t.count + 1
            pointer := v.pointer
            cell := v.cell
            records := (t.observe job filter v o).records } := by
        simp only [Transcript.observe, traced, plain, if_true, hcells, hpointer, hcell,
          Option.map_some, hrow, Option.toList_some, Option.isSome_some, List.singleton_append]
      rw [List.foldl_cons, ih (t := t.observe job filter v o) rfl rfl, hobserve, rowsOf,
        List.reverse_cons, List.append_assoc, List.singleton_append]

/-! ### The texts of a row -/

/-- A text that stays in its column: on one line, and without the bar that ends a column. -/
def OneColumn (t : List Char) : Prop := '|' ∉ t ∧ OneLine t

instance (t : List Char) : Decidable (OneColumn t) := inferInstanceAs (Decidable (_ ∧ _))

theorem oneColumn_append {a b : List Char} : OneColumn (a ++ b) ↔ OneColumn a ∧ OneColumn b := by
  simp only [OneColumn, List.mem_append, not_or, oneLine_append]
  exact and_and_and_comm

theorem oneColumn_toString (n : Nat) : OneColumn (toString n).toList := by
  refine ⟨?_, oneLine_repr n⟩
  intro h
  exact absurd (isDigit_of_mem_repr h) (by decide)

/-- What is told of a step stays in its column. -/
theorem oneColumn_told (o : Outcome) : OneColumn o.told.toList := by
  have hquoted : ∀ side : Side, OneColumn (toString side.quoted).toList := by
    intro side
    cases side <;> decide
  cases o with
  | frozen => decide
  | faulted f =>
      unfold Outcome.told Unmatched.message
      simp only [String.toList_append, oneColumn_append]
      exact ⟨⟨⟨by decide, hquoted f.side⟩, by decide⟩, oneColumn_toString _⟩
  | applied i x e b =>
      unfold Outcome.told Effect.text
      cases e with
      | ignored | passed =>
          dsimp only
          decide
      | moved _ | jumped _ | emitted _ =>
          dsimp only
          rw [String.toList_append, oneColumn_append]
          exact ⟨by decide, oneColumn_toString _⟩
      | changed _ _ _ =>
          dsimp only
          simp only [String.toList_append, oneColumn_append]
          exact ⟨⟨⟨⟨⟨by decide, oneColumn_toString _⟩, by decide⟩, oneColumn_toString _⟩,
            by decide⟩, oneColumn_toString _⟩

theorem oneLine_column (width n : Nat) : OneLine (column width (toString n)).toList := by
  rw [column, String.toList_ofList, padRight, oneLine_append]
  exact ⟨oneLine_repr n, oneLine_blanks _⟩

theorem oneLine_instructionAt (p : Program) (i : Nat) : OneLine (instructionAt p i).toList := by
  unfold instructionAt
  cases p.get? i with
  | none => decide
  | some x =>
      have hsingle : (String.singleton x.toChar).toList = [x].map Instruction.toChar :=
        String.toList_singleton _
      rw [Option.elim_some, hsingle]
      exact oneLine_map_toChar [x]

/-- A row stays on its line. -/
theorem oneLine_rowOf (p : Program) (number : Nat) (s : State) (o : Outcome) :
    OneLine (rowOf p number s o).toList := by
  simp only [rowOf, String.toList_append, oneLine_append, oneLine_column, oneLine_instructionAt,
    (oneColumn_told o).2, true_and, and_true]
  decide

theorem oneLine_of_mem_rowsOf {row : String} (h : row ∈ rowsOf p number s calls) :
    OneLine row.toList := by
  induction calls generalizing number s with
  | nil => cases h
  | cons c rest ih =>
      rcases List.mem_cons.mp h with rfl | h
      · exact oneLine_rowOf p number s c.2
      · exact ih h

theorem oneLine_tableHead : ∀ row ∈ tableHead, OneLine row.toList := by
  decide

/-- **The lines of a table** are its head and its rows. -/
theorem lines_tableText {rows : List String} (h : ∀ row ∈ rows, OneLine row.toList) :
    lines (tableText rows).toList = (tableHead ++ rows).map String.toList := by
  have htext : (tableText rows).toList =
      ((tableHead ++ rows).map String.toList).flatMap (· ++ ['\n']) := by
    rw [tableText, String.toList_join, List.flatMap_map, List.flatMap_map]
    simp only [String.toList_append]
    rfl
  rw [htext, lines_flatMap_newline]
  intro l hl
  obtain ⟨row, hrow, rfl⟩ := List.mem_map.mp hl
  rcases List.mem_append.mp hrow with hhead | hrow
  · exact oneLine_tableHead row hhead
  · exact h row hrow

/-! ### What is read back from a row -/

/-- The text behind the last bar of a row. -/
def lastColumn (row : String) : String :=
  String.ofList ((row.toList.reverse.takeWhile (· ≠ '|')).reverse.drop 1)

/-- The value that a row tells of, if it tells of one. -/
def toldValue? (row : String) : Option UInt8 :=
  ((List.range 256).map UInt8.ofNat).find? fun v => lastColumn row = (Effect.emitted v).text

theorem lastColumn_rowOf (p : Program) (number : Nat) (s : State) (o : Outcome) :
    lastColumn (rowOf p number s o) = o.told := by
  obtain ⟨front, hrow⟩ : ∃ front, rowOf p number s o = front ++ "    | " ++ o.told := ⟨_, rfl⟩
  have hbar : ("    | ").toList = "    ".toList ++ ['|', ' '] := rfl
  -- from the right, the first bar is the one in front of what is told
  have hkeep : ∀ c ∈ o.told.toList.reverse ++ [' '], c ≠ '|' := by
    intro c hc
    rcases List.mem_append.mp hc with hc | hc
    · exact ne_of_mem_of_not_mem (List.mem_reverse.mp hc) (oneColumn_told o).1
    · rw [List.mem_singleton.mp hc]
      decide
  have hreverse : (rowOf p number s o).toList.reverse =
      (o.told.toList.reverse ++ [' ']) ++ '|' :: (front.toList ++ "    ".toList).reverse := by
    rw [hrow, String.toList_append, String.toList_append, hbar]
    simp only [List.reverse_append, List.append_assoc]
    rfl
  rw [lastColumn, hreverse, List.takeWhile_append_of_pos (by simpa using hkeep),
    List.takeWhile_cons_of_neg (by decide), List.append_nil, List.reverse_append,
    List.reverse_reverse]
  exact String.ofList_toList

theorem told_head?_ne {o : Outcome} (h : o.emitted? = none) : o.told.toList.head? ≠ some 'O' := by
  cases o with
  | frozen => decide
  | faulted f =>
      unfold Outcome.told Unmatched.message
      simp only [String.toList_append, List.append_assoc]
      intro hhead
      exact absurd (Option.some.inj (hhead : some 'U' = some 'O')) (by decide)
  | applied i x e b =>
      unfold Outcome.told Effect.text
      intro hhead
      cases e with
      | emitted v => cases h
      | ignored | passed =>
          dsimp only at hhead
          exact absurd hhead (by decide)
      | moved target =>
          rw [String.toList_append] at hhead
          exact absurd (Option.some.inj (hhead : some 'M' = some 'O')) (by decide)
      | jumped partner =>
          rw [String.toList_append] at hhead
          exact absurd (Option.some.inj (hhead : some 'J' = some 'O')) (by decide)
      | changed cell before after =>
          simp only [String.toList_append, List.append_assoc] at hhead
          exact absurd (Option.some.inj (hhead : some 'S' = some 'O')) (by decide)

theorem told_of_emitted {o : Outcome} {v : UInt8} (h : o.emitted? = some v) :
    o.told = "Output value " ++ toString v.toNat := by
  cases o with
  | frozen | faulted _ => cases h
  | applied i x e b =>
      cases e with
      | emitted w =>
          cases h
          rfl
      | moved _ | changed _ _ _ | ignored | jumped _ | passed => cases h

/-- What is told of a step is that it emitted a value exactly when it did. -/
theorem told_eq_iff {o : Outcome} {v : UInt8} :
    o.told = (Effect.emitted v).text ↔ o.emitted? = some v := by
  have htext : (Effect.emitted v).text = "Output value " ++ toString v.toNat := rfl
  rw [htext]
  constructor
  · intro h
    cases ho : o.emitted? with
    | none =>
        refine absurd ?_ (told_head?_ne ho)
        rw [h, String.toList_append]
        rfl
    | some w =>
        rw [told_of_emitted ho, String.append_right_inj] at h
        rw [UInt8.toNat_inj.mp (eq_of_toString_eq h)]
  · exact told_of_emitted

/-- **What is read back from a row** is the value that the step emitted. -/
theorem toldValue?_rowOf (p : Program) (number : Nat) (s : State) (o : Outcome) :
    toldValue? (rowOf p number s o) = o.emitted? := by
  have hall : ∀ v : UInt8, v ∈ (List.range 256).map UInt8.ofNat := by
    intro v
    exact List.mem_map.mpr ⟨v.toNat, List.mem_range.mpr v.toNat_lt, UInt8.ofNat_toNat⟩
  rw [toldValue?, lastColumn_rowOf]
  cases hfind : ((List.range 256).map UInt8.ofNat).find? fun v =>
      o.told = (Effect.emitted v).text with
  | none =>
      cases ho : o.emitted? with
      | none => rfl
      | some v =>
          have hnot := List.find?_eq_none.mp hfind v (hall v)
          exact absurd (decide_eq_true (told_eq_iff.mpr ho)) hnot
  | some w =>
      have hw := List.find?_some hfind
      exact (told_eq_iff.mp (of_decide_eq_true hw)).symm

theorem filterMap_toldValue?_rowsOf (p : Program) (number : Nat) (s : State)
    (calls : List (State × Outcome)) :
    (rowsOf p number s calls).filterMap toldValue? = calls.filterMap fun c => c.2.emitted? := by
  induction calls generalizing number s with
  | nil => rfl
  | cons c rest ih =>
      rw [rowsOf, List.filterMap_cons, List.filterMap_cons, toldValue?_rowOf, ih]

end Rows

/-! ### The table -/

/-- The same job, with the values printed instead of the table. -/
def Job.untraced (job : Job) : Job := { job with trace := false }

theorem report_stdout (job : Job) (q : Progress) : (job.report q).stdout = job.printResult q := by
  unfold Job.report
  cases q.ending <;> rfl

theorem printTable_of_plain {job : Job} (h : job.color = false) (t : Transcript) :
    job.printTable t = .text (tableText t.rows.reverse) := by
  rw [Job.printTable, h]
  rfl

theorem Job.Reaches.printTable {job : Job} {p : Program} {m : Machine} {d : Delays}
    {calls : List (State × Outcome)} {q : Progress} (h : job.Reaches p m calls q)
    (fresh : job.session = .ofProgram p m d) (plain : job.color = false)
    (traced : job.trace = true) :
    job.printTable q.seen = .text (tableText (rowsOf p 0 (.start p m) calls)) := by
  have hs : job.session.state = .start p m := by
    rw [fresh]
    rfl
  have hrows := rows_foldl_observe plain traced (.ofAdmitted job.admits) h.trace
    (t := .start job.session) (congrArg State.pointer hs) (congrArg State.cell hs)
  rw [printTable_of_plain plain, h.seen, hrows, List.reverse_append, List.reverse_reverse]
  rfl

/-- **The table of a run** shows every step.  However far the run is followed, and whether it ends,
is given up or faults, the lines of what is printed are the two lines of the head and then one row
for each step that was taken: in the row of step `k` are this number, the position, the pointer, the
cell and the instruction of the state after `k` steps, and what the next step did.  The values that
are read back from the rows are what the same run prints without a table. -/
theorem table_shows_every_step {p : Program} {m : Machine} {d : Delays} (job : Job)
    (fresh : job.session = .ofProgram p m d) (plain : job.color = false)
    (traced : job.trace = true) (first : Nat) (looks : List Nat) :
    ∃ q calls rows, job.drive first looks = .ok q ∧
      Trace p (.start p m) calls q.session.state ∧
      (calls.length : ℕ∞) = min ((first + looks.sum : ℕ) : ℕ∞)
        (min ((State.start p m).stepsLeft p) job.limits.allowance) ∧
      (job.report q).stdout = .text (tableText rows) ∧
      lines (tableText rows).toList = (tableHead ++ rows).map String.toList ∧
      rows.length = calls.length ∧
      (∀ k (hk : k < calls.length), ∃ s, (State.start p m).after p k = .ok s ∧
        s.step p = .ok calls[k] ∧ rows[k]? = some (rowOf p k s calls[k].2)) ∧
      ∃ r, job.untraced.drive first looks = .ok r ∧
        (job.untraced.report r).stdout = printed job.ascii (rows.filterMap toldValue?) := by
  obtain ⟨q, calls, hdrive, h, hlen⟩ := Job.exists_drive fresh first looks
  have huntraced : job.untraced.session = .ofProgram p m d := fresh
  obtain ⟨r, calls', hdrive', h', hlen'⟩ := Job.exists_drive huntraced first looks
  -- without the table the steps are the same
  have hsame : calls'.length = calls.length := Nat.cast_inj.mp (hlen'.trans hlen.symm)
  obtain ⟨rfl, -⟩ := h'.trace.unique h.trace hsame
  refine ⟨q, calls', rowsOf p 0 (.start p m) calls', hdrive, h.trace, hlen, ?_,
    lines_tableText fun row => oneLine_of_mem_rowsOf, length_rowsOf 0 _ _, ?_, r, hdrive', ?_⟩
  · rw [report_stdout, Job.printResult, if_pos traced, h.printTable fresh plain traced]
  · intro k hk
    obtain ⟨s, hafter, hstep, hrow⟩ := getElem?_rowsOf h.trace 0 hk
    rw [Nat.zero_add] at hrow
    exact ⟨s, hafter, hstep, hrow⟩
  · have hnotable : job.untraced.trace = false := rfl
    rw [report_stdout, Job.printResult, hnotable, if_neg Bool.false_ne_true, h'.printValues plain,
      filterMap_toldValue?_rowsOf]
    rfl

/-- The table of a run that faults on its third step tells of the value that was emitted before. -/
theorem table_of_faulting_run :
    let job : Job :=
      ⟨"bf", .load "+.]" .standard .standard, none, 2000, true, true, false, fun _ => false⟩
    job.session = .ofProgram (.ofSource "+.]") .standard .standard ∧ job.color = false ∧
      job.trace = true ∧
      ∃ q rows, job.drive 3 [] = .ok q ∧ q.session.state.fault? = some ⟨2, .closing⟩ ∧
        (job.report q).stdout = .text (tableText rows) ∧ rows.filterMap toldValue? = [1] := by
  intro job
  obtain ⟨q, calls, rows, hdrive, -, -, hout, -, -, -, r, hdrive', hout'⟩ :=
    table_shows_every_step job rfl rfl rfl 3 []
  have hfault : q.session.state.fault? = some ⟨2, .closing⟩ := by
    cases hdrive
    rfl
  have hprinted : (job.untraced.report r).stdout = .bytes [1, 10] := by
    cases hdrive'
    rfl
  rw [hout'] at hprinted
  have hvalues : rows.filterMap toldValue? ++ [10] = [1] ++ [10] := Printed.bytes.inj hprinted
  exact ⟨rfl, rfl, rfl, q, rows, hdrive, hfault, hout, List.append_cancel_right hvalues⟩

end Command

end TapeMachine
