/-
**Editing is editing of flat text.**

The editor keeps its text as lines, but its user sees one text with a cursor in it.  Seen so, a
break of a line is a newline character like any other, and each key does what one expects: a
character is written at the cursor, the one before it or the one after it is removed, the cursor
goes back or on by one.

A cursor cuts the lines into the lines above, the two parts of its own line, and the lines below.
Every editor with its cursor in its text is such a cut (`Editor.around`), the flat text of a cut has
a front and a back, and each key moves a character, or a break of a line, between the two or takes
one away from either.

What is said of a key holds for those that a terminal reports.  When it writes a character the
editor only looks at the control key and the alternate key, so it would also write one that is held
with the super key; but it is never told of that key.

Main definitions:

* `TapeMachine.FlatText` — a text with a cursor, and what can be done to it;
* `TapeMachine.Editor.flat` — the flat text that an editor stands for;
* `TapeMachine.Editor.Valid` — the cursor is in the text, and no line holds a newline;
* `TapeMachine.Editor.Answers` — what a key does, told of the flat text.

Main results:

* `TapeMachine.Editor.flat_around` — the flat text of a cut;
* `TapeMachine.Editor.Valid.settle` — the clamp at the end of a key never moves a valid cursor;
* `TapeMachine.Editor.Valid.exists_press` — **one key**: none breaks a contract, each keeps the
  editor valid and does what it should;
* `TapeMachine.Editor.editing_refines_flat_text` — what that means for all keys pressed since a
  source text was opened.
-/

import Mathlib.Data.List.Basic
import TapeMachine.Viewer.Basic

set_option relaxedAutoImplicit false
set_option autoImplicit false

namespace TapeMachine

/-! ### Lists cut before an element -/

theorem insertIdx_append {α : Type} (above below : List α) (x : α) :
    (above ++ below).insertIdx above.length x = above ++ x :: below := by
  induction above with
  | nil => rfl
  | cons y above ih => exact congrArg (y :: ·) ih

theorem set_append_cons {α : Type} (above below : List α) (x y : α) :
    (above ++ x :: below).set above.length y = above ++ y :: below := by
  rw [List.set_append_right _ _ (Nat.le_refl _), Nat.sub_self, List.set_cons_zero]

theorem eraseIdx_append_cons {α : Type} (above below : List α) (x : α) :
    (above ++ x :: below).eraseIdx above.length = above ++ below := by
  rw [List.eraseIdx_append_of_length_le (Nat.le_refl _), Nat.sub_self, List.eraseIdx_cons_zero]

/-! ### Flat text -/

/-- A text with a cursor in it. -/
structure FlatText where
  /-- The text. -/
  text : List Char
  /-- The number of characters before the cursor. -/
  offset : Nat
deriving DecidableEq

namespace FlatText

/-- Write a character at the cursor. -/
def insert (f : FlatText) (c : Char) : FlatText := ⟨f.text.insertIdx f.offset c, f.offset + 1⟩

/-- Remove the character before the cursor, if there is one. -/
def backspace (f : FlatText) : FlatText :=
  if f.offset = 0 then f else ⟨f.text.eraseIdx (f.offset - 1), f.offset - 1⟩

/-- Remove the character after the cursor, if there is one. -/
def delete (f : FlatText) : FlatText := ⟨f.text.eraseIdx f.offset, f.offset⟩

/-- Go back by one character, but not beyond the beginning. -/
def back (f : FlatText) : FlatText := ⟨f.text, f.offset - 1⟩

/-- Go on by one character, but not beyond the end. -/
def forward (f : FlatText) : FlatText := ⟨f.text, min (f.offset + 1) f.text.length⟩

/-- The text made of two parts, with the cursor between them. -/
def between (front rest : List Char) : FlatText := ⟨front ++ rest, front.length⟩

variable (front rest : List Char) (c : Char)

theorem insert_between : (between front rest).insert c = between (front ++ [c]) rest := by
  simp [insert, between, insertIdx_append]

theorem backspace_between_snoc :
    (between (front ++ [c]) rest).backspace = between front rest := by
  simp [backspace, between, eraseIdx_append_cons]

theorem backspace_between_nil : (between [] rest).backspace = between [] rest := rfl

theorem delete_between_cons : (between front (c :: rest)).delete = between front rest := by
  simp only [delete, between, eraseIdx_append_cons]

theorem delete_between_nil : (between front []).delete = between front [] := by
  simp [delete, between, List.eraseIdx_of_length_le]

theorem back_between_snoc : (between (front ++ [c]) rest).back = between front (c :: rest) := by
  simp [back, between]

theorem back_between_nil : (between [] rest).back = between [] rest := rfl

theorem forward_between_cons :
    (between front (c :: rest)).forward = between (front ++ [c]) rest := by
  simp [forward, between]

theorem forward_between_nil : (between front []).forward = between front [] := by
  simp [forward, between]

end FlatText

namespace Editor

open Text FlatText

/-- The number of characters before the cursor, the break of each line above counting as one. -/
def offset (e : Editor) : Nat :=
  (e.lines.take e.row).foldr (fun line n => line.length + 1 + n) e.column

/-- The flat text that the editor stands for. -/
def flat (e : Editor) : FlatText := ⟨e.text, e.offset⟩

/-- The cursor is in a line of the text, and at its end at most; no line holds a newline. -/
structure Valid (e : Editor) : Prop where
  row_lt : e.row < e.lines.length
  column_le : ∀ line, e.lines[e.row]? = some line → e.column ≤ line.length
  clean : ∀ line ∈ e.lines, '\n' ∉ line

/-- The cursor of `e` went to the given row and column, or to the end of that row if it is shorter;
the text stayed as it was. -/
structure MovedTo (e : Editor) (row column : Nat) (e' : Editor) : Prop where
  lines_eq : e'.lines = e.lines
  row_eq : e'.row = row
  column_eq : ∀ line, e.lines[row]? = some line → e'.column = min column line.length

/-- The editor answers a key with `e'`. -/
def Answers (e : Editor) (k : KeyPress) (e' : Editor) : Prop :=
  match k.key with
  | .char c =>
    if k.modifiers.isPlain && !isControl c then e'.flat = e.flat.insert c else e' = e
  | .enter => e'.flat = e.flat.insert '\n'
  | .backspace => e'.flat = e.flat.backspace
  | .delete => e'.flat = e.flat.delete
  | .left => e'.flat = e.flat.back
  | .right => e'.flat = e.flat.forward
  | .up => e.MovedTo (e.row - 1) e.column e'
  | .down => e.MovedTo (min (e.row + 1) (e.lines.length - 1)) e.column e'
  | .home => e.MovedTo e.row 0 e'
  | .finish => ∀ line, e.lines[e.row]? = some line → e.MovedTo e.row line.length e'
  | _ => e' = e

/-! ### The cut at the cursor -/

/-- The editor whose cursor is in the line `before ++ after`, between the two parts. -/
def around (above : List (List Char)) (before after : List Char) (below : List (List Char))
    (scroll : Nat) : Editor :=
  ⟨above ++ (before ++ after) :: below, above.length, before.length, scroll⟩

/-- What is before the cursor in the flat text. -/
def front (above : List (List Char)) (before : List Char) : List Char :=
  above.flatMap (· ++ ['\n']) ++ before

/-- What is after the cursor in the flat text. -/
def rest (after : List Char) (below : List (List Char)) : List Char :=
  after ++ below.flatMap ('\n' :: ·)

section Cut

variable (above : List (List Char)) (before after line : List Char) (below : List (List Char))
variable (scroll : Nat) (c : Char)

theorem front_snoc : front above (before ++ [c]) = front above before ++ [c] := by
  simp [front]

theorem front_line : front (above ++ [line]) [] = front above line ++ ['\n'] := by
  simp [front]

theorem rest_cons : rest (c :: after) below = c :: rest after below := rfl

theorem rest_line : rest [] (line :: below) = '\n' :: rest line below := by
  simp [rest]

theorem length_front : (front above before).length =
    above.foldr (fun line n => line.length + 1 + n) before.length := by
  induction above with
  | nil => rfl
  | cons line above ih =>
      have hcons : front (line :: above) before = line ++ '\n' :: front above before := by
        simp [front]
      rw [hcons, List.length_append, List.length_cons, List.foldr_cons, ← ih]
      omega

theorem row_around : (around above before after below scroll).row = above.length := rfl

theorem column_around : (around above before after below scroll).column = before.length := rfl

theorem lines_around : (around above before after below scroll).lines =
    above ++ (before ++ after) :: below := rfl

theorem getElem?_around :
    (around above before after below scroll).lines[above.length]? = some (before ++ after) := by
  rw [around, List.getElem?_append_right (Nat.le_refl _), Nat.sub_self, List.getElem?_cons_zero]

/-- **The flat text of a cut.** -/
theorem flat_around : (around above before after below scroll).flat =
    between (front above before) (rest after below) := by
  have htext : (around above before after below scroll).text =
      front above before ++ rest after below := by
    rw [text, lines_around, joinLines_append_cons, front, rest]
    simp
  have hoffset : (around above before after below scroll).offset =
      (front above before).length := by
    rw [length_front, offset, lines_around, row_around, column_around, List.take_left]
  rw [flat, htext, hoffset, between]

theorem valid_around_iff : (around above before after below scroll).Valid ↔
    (∀ l ∈ above, '\n' ∉ l) ∧ '\n' ∉ before ∧ '\n' ∉ after ∧ ∀ l ∈ below, '\n' ∉ l := by
  constructor
  · intro h
    have hline := h.clean (before ++ after) (by simp [around])
    rw [List.mem_append, not_or] at hline
    refine ⟨fun l hl => h.clean l ?_, hline.1, hline.2, fun l hl => h.clean l ?_⟩
    · simp [around, hl]
    · simp [around, hl]
  · rintro ⟨habove, hbefore, hafter, hbelow⟩
    refine ⟨by simp [around], fun line hline => ?_, fun line hline => ?_⟩
    · rw [row_around, getElem?_around, Option.some.injEq] at hline
      simp [column_around, ← hline]
    · simp only [around, List.mem_append, List.mem_cons] at hline
      rcases hline with hline | rfl | hline
      · exact habove line hline
      · simp [hbefore, hafter]
      · exact hbelow line hline

/-- An editor with its cursor in its text is cut by it. -/
theorem Valid.exists_around {e : Editor} (h : e.Valid) : ∃ above before after below scroll,
    e = around above before after below scroll := by
  obtain ⟨lines, row, column, scroll⟩ := e
  have hrow : row < lines.length := h.row_lt
  have hcolumn : column ≤ lines[row].length := h.column_le _ (List.getElem?_eq_getElem hrow)
  refine ⟨lines.take row, lines[row].take column, lines[row].drop column,
    lines.drop (row + 1), scroll, ?_⟩
  simp [around, Nat.min_eq_left hcolumn, Nat.min_eq_left (Nat.le_of_lt hrow)]

/-! ### The keys on a cut -/

theorem ok_bind {ε α β : Type} (a : α) (f : α → Except ε β) : (Except.ok a >>= f) = f a := rfl

theorem lineAt_around :
    (around above before after below scroll).lineAt above.length = .ok (before ++ after) :=
  lineAt_of_getElem? (getElem?_around above before after below scroll)

theorem insert_around : (around above before after below scroll).insert c =
    .ok (around above (before ++ [c]) after below scroll) := by
  simp only [insert, row_around, column_around, lines_around, lineAt_around, ok_bind,
    splitBytes_byteOffset, set_append_cons]
  simp [around, pure, Except.pure]

theorem breakLine_around : (around above before after below scroll).breakLine =
    .ok (around (above ++ [before]) [] after below scroll) := by
  have hinsert := insertIdx_append (above ++ [before]) below after
  rw [List.append_assoc, List.singleton_append, List.length_append,
    List.length_singleton] at hinsert
  simp only [breakLine, row_around, column_around, lines_around, lineAt_around, ok_bind,
    splitBytes_byteOffset, set_append_cons, hinsert]
  simp [around, pure, Except.pure]

theorem backspace_around_snoc : (around above (before ++ [c]) after below scroll).backspace =
    .ok (around above before after below scroll) := by
  have hremove := removeBytes_byteOffset before [c] after
  rw [← List.append_assoc, List.length_singleton] at hremove
  simp only [backspace, row_around, column_around, lines_around, lineAt_around, ok_bind,
    List.length_append, List.length_singleton, Nat.zero_lt_succ, if_true, Nat.add_sub_cancel,
    hremove, set_append_cons]
  rfl

theorem backspace_around_nil : (around (above ++ [line]) [] after below scroll).backspace =
    .ok (around above line after below scroll) := by
  have habove : (around (above ++ [line]) [] after below scroll).lineAt above.length = .ok line :=
    lineAt_of_getElem? (by simp [lines_around])
  have hpos : 0 < (above ++ [line]).length := by simp
  have hpred : (above ++ [line]).length - 1 = above.length := by simp
  simp only [backspace, row_around, column_around, lines_around, List.length_nil, Nat.lt_irrefl,
    if_false, hpos, if_true, lineAt_around, hpred, habove, ok_bind, eraseIdx_append_cons]
  simp only [List.append_assoc, List.singleton_append, set_append_cons]
  rfl

theorem backspace_around_start : (around [] [] after below scroll).backspace =
    .ok (around [] [] after below scroll) := rfl

theorem delete_around_cons : (around above before (c :: after) below scroll).delete =
    .ok (around above before after below scroll) := by
  have hremove := removeBytes_byteOffset before [c] after
  have hcolumn : before.length < (before ++ c :: after).length := by simp
  rw [List.length_singleton, List.singleton_append] at hremove
  simp only [delete, row_around, column_around, lines_around, lineAt_around, ok_bind, hcolumn,
    if_true, hremove, set_append_cons]
  rfl

theorem delete_around_nil : (around above before [] (line :: below) scroll).delete =
    .ok (around above before line below scroll) := by
  have hbelow : (around above before [] (line :: below) scroll).lineAt (above.length + 1) =
      .ok line :=
    lineAt_of_getElem? (by simp [lines_around])
  have hrow : above.length + 1 < (above ++ before :: line :: below).length := by simp
  have herase := eraseIdx_append_cons (above ++ [before]) below line
  simp only [List.append_assoc, List.singleton_append, List.length_append,
    List.length_singleton] at herase
  simp only [delete, row_around, column_around, lines_around, lineAt_around, List.append_nil,
    ok_bind, Nat.lt_irrefl, if_false, hrow, if_true, hbelow, herase, set_append_cons]
  rfl

theorem delete_around_end : (around above before [] [] scroll).delete =
    .ok (around above before [] [] scroll) := by
  simp [delete, row_around, column_around, lines_around, lineAt_around, ok_bind, pure, Except.pure]

theorem left_around_snoc : (around above (before ++ [c]) after below scroll).left =
    .ok (around above before (c :: after) below scroll) := by
  simp [left, around, pure, Except.pure]

theorem left_around_nil : (around (above ++ [line]) [] after below scroll).left =
    .ok (around above line [] (after :: below) scroll) := by
  simp [left, around, lineAt, ok_bind, pure, Except.pure]

theorem left_around_start : (around [] [] after below scroll).left =
    .ok (around [] [] after below scroll) := rfl

theorem right_around_cons : (around above before (c :: after) below scroll).right =
    .ok (around above (before ++ [c]) after below scroll) := by
  simp only [right, row_around, lineAt_around, ok_bind]
  simp [around, pure, Except.pure]

theorem right_around_nil : (around above before [] (line :: below) scroll).right =
    .ok (around (above ++ [before]) [] line below scroll) := by
  simp only [right, row_around, lineAt_around, ok_bind]
  simp [around, pure, Except.pure]

theorem right_around_end : (around above before [] [] scroll).right =
    .ok (around above before [] [] scroll) := by
  simp only [right, row_around, lineAt_around, ok_bind]
  simp [around, pure, Except.pure]

end Cut

/-! ### The keys that edit -/

/-- What a key does succeeds, keeps the editor valid, and makes its flat text the given one. -/
def Yields (r : Except Breach Editor) (f : FlatText) : Prop :=
  ∃ e, r = .ok e ∧ e.Valid ∧ e.flat = f

theorem yields_around {r : Except Breach Editor} {above : List (List Char)}
    {before after : List Char} {below : List (List Char)} {scroll : Nat} {f : FlatText}
    (hr : r = .ok (around above before after below scroll))
    (hclean : (∀ l ∈ above, '\n' ∉ l) ∧ '\n' ∉ before ∧ '\n' ∉ after ∧ ∀ l ∈ below, '\n' ∉ l)
    (hf : between (front above before) (rest after below) = f) : Yields r f :=
  ⟨_, hr, (valid_around_iff ..).mpr hclean, (flat_around ..).trans hf⟩

variable {e : Editor}

theorem Valid.insert (he : e.Valid) {c : Char} (hc : c ≠ '\n') :
    Yields (e.insert c) (e.flat.insert c) := by
  obtain ⟨above, before, after, below, scroll, rfl⟩ := he.exists_around
  rw [valid_around_iff] at he
  refine yields_around (insert_around ..) (by grind) ?_
  rw [flat_around, front_snoc, insert_between]

theorem Valid.breakLine (he : e.Valid) : Yields e.breakLine (e.flat.insert '\n') := by
  obtain ⟨above, before, after, below, scroll, rfl⟩ := he.exists_around
  rw [valid_around_iff] at he
  refine yields_around (breakLine_around ..) (by grind) ?_
  rw [flat_around, front_line, insert_between]

theorem Valid.backspace (he : e.Valid) : Yields e.backspace e.flat.backspace := by
  obtain ⟨above, before, after, below, scroll, rfl⟩ := he.exists_around
  rw [valid_around_iff] at he
  rw [flat_around]
  rcases List.eq_nil_or_concat' before with rfl | ⟨before, c, rfl⟩
  · rcases List.eq_nil_or_concat' above with rfl | ⟨above, line, rfl⟩
    · exact yields_around (backspace_around_start ..) he (backspace_between_nil _).symm
    · refine yields_around (backspace_around_nil ..) (by grind) ?_
      rw [front_line, backspace_between_snoc]
  · refine yields_around (backspace_around_snoc ..) (by grind) ?_
    rw [front_snoc, backspace_between_snoc]

theorem Valid.delete (he : e.Valid) : Yields e.delete e.flat.delete := by
  obtain ⟨above, before, after, below, scroll, rfl⟩ := he.exists_around
  rw [valid_around_iff] at he
  rw [flat_around]
  cases after with
  | nil =>
      cases below with
      | nil => exact yields_around (delete_around_end ..) he (delete_between_nil _).symm
      | cons line below =>
          refine yields_around (delete_around_nil ..) (by grind) ?_
          rw [rest_line, delete_between_cons]
  | cons c after =>
      refine yields_around (delete_around_cons ..) (by grind) ?_
      rw [rest_cons, delete_between_cons]

theorem Valid.left (he : e.Valid) : Yields e.left e.flat.back := by
  obtain ⟨above, before, after, below, scroll, rfl⟩ := he.exists_around
  rw [valid_around_iff] at he
  rw [flat_around]
  rcases List.eq_nil_or_concat' before with rfl | ⟨before, c, rfl⟩
  · rcases List.eq_nil_or_concat' above with rfl | ⟨above, line, rfl⟩
    · exact yields_around (left_around_start ..) he (back_between_nil _).symm
    · refine yields_around (left_around_nil ..) (by grind) ?_
      rw [front_line, back_between_snoc, rest_line]
  · refine yields_around (left_around_snoc ..) (by grind) ?_
    rw [front_snoc, back_between_snoc, rest_cons]

theorem Valid.right (he : e.Valid) : Yields e.right e.flat.forward := by
  obtain ⟨above, before, after, below, scroll, rfl⟩ := he.exists_around
  rw [valid_around_iff] at he
  rw [flat_around]
  cases after with
  | nil =>
      cases below with
      | nil => exact yields_around (right_around_end ..) he (forward_between_nil _).symm
      | cons line below =>
          refine yields_around (right_around_nil ..) (by grind) ?_
          rw [rest_line, forward_between_cons, front_line]
  | cons c after =>
      refine yields_around (right_around_cons ..) (by grind) ?_
      rw [rest_cons, forward_between_cons, front_snoc]

/-! ### Taking the cursor into the text -/

theorem settle_of_getElem? {line : List Char} (h : e.lines[e.row]? = some line) :
    e.settle = .ok { e with column := min e.column line.length } := by
  obtain ⟨hrow, -⟩ := List.getElem?_eq_some_iff.mp h
  have hmin : min e.row (e.lines.length - 1) = e.row := by omega
  simp only [settle, hmin, lineAt_of_getElem? h, ok_bind]
  rfl

/-- **The clamp never moves a valid cursor.** -/
theorem Valid.settle (he : e.Valid) : e.settle = .ok e := by
  have h := List.getElem?_eq_getElem he.row_lt
  rw [settle_of_getElem? h, Nat.min_eq_left (he.column_le _ h)]

theorem Valid.exists_settle_movedTo (he : e.Valid) {row : Nat} (column : Nat)
    (hrow : row < e.lines.length) :
    ∃ e', ({ e with row := row, column := column } : Editor).settle = .ok e' ∧ e'.Valid ∧
      e.MovedTo row column e' := by
  have h := List.getElem?_eq_getElem hrow
  have hline : ∀ line, e.lines[row]? = some line → line = e.lines[row] := fun line hline =>
    Option.some.inj (hline.symm.trans h)
  refine ⟨_, settle_of_getElem? h, ⟨hrow, fun line hl => ?_, he.clean⟩, rfl, rfl,
    fun line hl => ?_⟩
  · rw [hline line hl]
    exact Nat.min_le_right _ _
  · rw [hline line hl]

/-! ### Every key -/

/-- **What a key does.**  No key breaks a contract, and the editor stays valid.  The editor does not
look at the super key, the hyper key and the meta key. -/
theorem Valid.exists_press (he : e.Valid) (k : KeyPress) :
    ∃ e', e.press k = .ok e' ∧ e'.Valid ∧ e.Answers k.basic e' := by
  have hyields : ∀ {f}, Yields (e.act k) f → ∃ e', e.press k = .ok e' ∧ e'.Valid ∧ e'.flat = f := by
    rintro f ⟨e', hact, he', hf⟩
    exact ⟨e', by rw [press, hact, ok_bind, he'.settle], he', hf⟩
  have hsame : e.act k = .ok e → ∃ e', e.press k = .ok e' ∧ e'.Valid ∧ e' = e := by
    intro hact
    exact ⟨e, by rw [press, hact, ok_bind, he.settle], he, rfl⟩
  have hmoved : ∀ {row column}, row < e.lines.length →
      e.act k = .ok { e with row := row, column := column } →
      ∃ e', e.press k = .ok e' ∧ e'.Valid ∧ e.MovedTo row column e' := by
    intro row column hrow hact
    rw [press, hact, ok_bind]
    exact he.exists_settle_movedTo column hrow
  have hrow := he.row_lt
  obtain ⟨key, modifiers⟩ := k
  cases key with
  | char c =>
      have hplain : (modifiers.basic.isPlain && !isControl c) =
          !(modifiers.control || modifiers.alt || isControl c) := by
        simp [Modifiers.basic, Modifiers.isPlain]
      by_cases hcommand : (modifiers.control || modifiers.alt || isControl c) = true
      · simp only [Answers, KeyPress.basic, hplain, hcommand]
        exact hsame (if_pos hcommand)
      · have hact : e.act ⟨.char c, modifiers⟩ = e.insert c := if_neg hcommand
        have hc : c ≠ '\n' := by
          rintro rfl
          exact hcommand (by simp [isControl])
        simp only [Answers, KeyPress.basic, hplain, hcommand]
        rw [hact] at hyields
        exact hyields (he.insert hc)
  | enter => exact hyields he.breakLine
  | backspace => exact hyields he.backspace
  | delete => exact hyields he.delete
  | left => exact hyields he.left
  | right => exact hyields he.right
  | up => exact hmoved (Nat.lt_of_le_of_lt (Nat.sub_le _ _) hrow) rfl
  | down =>
      by_cases hbelow : e.row + 1 < e.lines.length
      · have hmin : min (e.row + 1) (e.lines.length - 1) = e.row + 1 := by omega
        simp only [Answers, KeyPress.basic, hmin]
        exact hmoved hbelow (congrArg Except.ok (if_pos hbelow))
      · have hmin : min (e.row + 1) (e.lines.length - 1) = e.row := by omega
        simp only [Answers, KeyPress.basic, hmin]
        exact hmoved hrow (congrArg Except.ok (if_neg hbelow))
  | home => exact hmoved hrow rfl
  | finish =>
      have hline := List.getElem?_eq_getElem hrow
      have hact : e.finish = .ok { e with column := e.lines[e.row].length } := by
        rw [finish, lineAt_of_getElem? hline]
        rfl
      obtain ⟨e', hpress, he', hto⟩ := hmoved hrow hact
      refine ⟨e', hpress, he', fun line hget => ?_⟩
      rw [Option.some.inj (hget.symm.trans hline)]
      exact hto
  | pageUp | pageDown | tab | backTab | insert | escape | function | other => exact hsame rfl

theorem Valid.exists_foldlM_press (he : e.Valid) (keys : List KeyPress) :
    ∃ e', keys.foldlM press e = .ok e' ∧ e'.Valid := by
  induction keys generalizing e with
  | nil => exact ⟨e, rfl, he⟩
  | cons k keys ih =>
      obtain ⟨e₁, hpress, he₁, -⟩ := he.exists_press k
      rw [List.foldlM_cons, hpress, ok_bind]
      exact ih he₁

theorem valid_ofLines {lines : List (List Char)} (h : ∀ line ∈ lines, '\n' ∉ line) :
    (ofLines lines).Valid := by
  cases lines with
  | nil => exact (valid_around_iff [] [] [] [] 0).mpr (by simp)
  | cons line below => exact (valid_around_iff [] [] line below 0).mpr (by simpa using h)

/-- The editor that a source text opens has its cursor in its text. -/
theorem valid_ofSource (source : String) : (ofSource source).Valid :=
  valid_ofLines fun _ hline => newline_notMem_lines hline

/-- Scrolling leaves the cursor in the text. -/
theorem Valid.scrolled (he : e.Valid) (scroll : Nat) : { e with scroll := scroll }.Valid :=
  ⟨he.row_lt, he.column_le, he.clean⟩

theorem Valid.offset_le (he : e.Valid) : e.offset ≤ e.text.length := by
  obtain ⟨above, before, after, below, scroll, rfl⟩ := he.exists_around
  have hflat := flat_around above before after below scroll
  rw [flat, between, FlatText.mk.injEq] at hflat
  rw [hflat.1, hflat.2, List.length_append]
  exact Nat.le_add_right _ _

/-- **Editing is editing of flat text.**  Whatever keys were pressed since a source text was opened,
none of them broke a contract, there is a line, the cursor is in the text, and no line holds a
newline; and so it stays with any further key.  A key that a terminal reports does to the flat text
what it should; any other key does what it would do without the super key, the hyper key and the
meta key.  The viewer hands over every key but those that apply the text or give it up. -/
theorem editing_refines_flat_text {reports : KeySource} (hreports : reports.Lawful)
    (source : String) (keys : List KeyPress) :
    ∃ e, keys.foldlM press (ofSource source) = .ok e ∧ e.Valid ∧ e.offset ≤ e.text.length ∧
      ∀ k, ∃ e', e.press k = .ok e' ∧ e'.Valid ∧ (reports k → e.Answers k e') ∧
        e.Answers k.basic e' ∧ ∀ (v : Viewer) (now : Nat), v.editor = some e → v.press k now =
          .ok (if Viewer.applies k then v.apply e else if k.key = .escape then v.cancel
            else { v with editor := some e' }, false) := by
  have hsource : (ofSource source).Valid :=
    valid_ofLines fun line hline => newline_notMem_lines hline
  obtain ⟨e, hkeys, he⟩ := hsource.exists_foldlM_press keys
  refine ⟨e, hkeys, he, he.offset_le, fun k => ?_⟩
  obtain ⟨e', hpress, he', hanswers⟩ := he.exists_press k
  refine ⟨e', hpress, he', fun hk => ?_, hanswers, fun v now hv => ?_⟩
  · rwa [hreports.basic_eq hk] at hanswers
  rw [Viewer.press_editor hv, Viewer.pressEditor, hpress]
  split
  · rfl
  · split <;> rfl

/-- A character that is held with the shift key is written. -/
theorem shifted_character_is_written :
    ∃ e e', [KeyPress.mk .right .none].foldlM press (ofSource "+") = .ok e ∧
      e.press ⟨.char 'A', { Modifiers.none with shift := true }⟩ = .ok e' ∧
      e'.flat = ⟨['+', 'A'], 2⟩ := by
  obtain ⟨e, hkeys, -, -, hnext⟩ := editing_refines_flat_text KeySource.lawful_standard "+"
    [⟨.right, .none⟩]
  obtain ⟨e', hpress, -, hanswers, -⟩ :=
    hnext ⟨.char 'A', { Modifiers.none with shift := true }⟩
  have hreached : [KeyPress.mk .right .none].foldlM press (ofSource "+") =
      .ok ⟨[['+']], 0, 1, 0⟩ := by
    rfl
  cases hkeys.symm.trans hreached
  exact ⟨_, e', hkeys, hpress, hanswers rfl⟩

end Editor

end TapeMachine
