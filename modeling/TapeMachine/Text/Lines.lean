/-
**Lines of a text.**

A line ends before a newline character, and a carriage return that stands just before the newline
belongs to the ending, not to the line.  The last line needs no ending; a text that ends with a
newline has no empty line after it.

Main definitions:

* `TapeMachine.Text.lines` — the lines of a text;
* `TapeMachine.Text.joinLines` — lines put together with newlines between them;
* `TapeMachine.Text.OneLine` — a text that stays on one line.

Main results:

* `TapeMachine.Text.newline_notMem_lines` — no line holds a newline;
* `TapeMachine.Text.joinLines_append_cons` — lines put together, around one of them;
* `TapeMachine.Text.filterMap_joinLines_lines`, `TapeMachine.Text.joinLines_lines_sublist` — the
  lines of a text put together again: nothing is lost but characters of line endings, and nothing is
  new;
* `TapeMachine.Text.lines_append_newline`, `TapeMachine.Text.lines_flatMap_newline` — lines that are
  written one after the other, each with a newline behind it, are read as these lines.
-/

set_option relaxedAutoImplicit false
set_option autoImplicit false

namespace TapeMachine.Text

/-- The part of a line before a carriage return at its end. -/
def dropReturn (line : List Char) : List Char :=
  if line.getLast? = some '\r' then line.dropLast else line

/-- The lines of a text, `line` being what was read of the first one, in reverse. -/
def linesFrom (line : List Char) : List Char → List (List Char)
  | [] => if line.isEmpty then [] else [line.reverse]
  | c :: t =>
    if c = '\n' then dropReturn line.reverse :: linesFrom [] t else linesFrom (c :: line) t

/-- The lines of a text. -/
def lines (t : List Char) : List (List Char) := linesFrom [] t

/-- Lines put together with a newline between each two. -/
def joinLines : List (List Char) → List Char
  | [] => []
  | [line] => line
  | line :: rest => line ++ '\n' :: joinLines rest

theorem mem_of_mem_dropReturn {c : Char} {line : List Char} (h : c ∈ dropReturn line) :
    c ∈ line := by
  unfold dropReturn at h
  split at h
  · exact List.dropLast_subset line h
  · exact h

theorem newline_notMem_linesFrom {line t : List Char} (hl : '\n' ∉ line) :
    ∀ l ∈ linesFrom line t, '\n' ∉ l := by
  fun_induction linesFrom line t with
  | case1 line h => simp
  | case2 line h => simpa using hl
  | case3 line t ih =>
      intro l hmem
      rcases List.mem_cons.mp hmem with rfl | hmem
      · exact fun hc => hl (by simpa using mem_of_mem_dropReturn hc)
      · exact ih (by simp) l hmem
  | case4 line c t hc ih => exact ih (by simpa [eq_comm, hl] using hc)

/-- **No line holds a newline.** -/
theorem newline_notMem_lines {t l : List Char} (h : l ∈ lines t) : '\n' ∉ l :=
  newline_notMem_linesFrom (by simp) l h

theorem joinLines_cons (line : List Char) (rest : List (List Char)) :
    joinLines (line :: rest) = line ++ rest.flatMap ('\n' :: ·) := by
  induction rest generalizing line with
  | nil => simp [joinLines]
  | cons next rest ih => rw [joinLines, ih, List.flatMap_cons, List.cons_append]; simp

/-- Lines put together: each line above a line is followed by a newline, each line below it
preceded by one. -/
theorem joinLines_append_cons (above : List (List Char)) (line : List Char)
    (below : List (List Char)) :
    joinLines (above ++ line :: below) =
      above.flatMap (· ++ ['\n']) ++ (line ++ below.flatMap ('\n' :: ·)) := by
  induction above with
  | nil => exact joinLines_cons line below
  | cons first above ih =>
      have hcons : joinLines (first :: (above ++ line :: below)) =
          first ++ '\n' :: joinLines (above ++ line :: below) := by
        cases above <;> rfl
      rw [List.cons_append, hcons, ih]
      simp

/-! ### Lines put together again -/

section Rejoin

variable {α : Type} {f : Char → Option α}

theorem filterMap_dropReturn (hr : f '\r' = none) (line : List Char) :
    (dropReturn line).filterMap f = line.filterMap f := by
  unfold dropReturn
  split
  · rename_i h
    obtain ⟨front, rfl⟩ := List.getLast?_eq_some_iff.mp h
    simp [hr]
  · rfl

theorem filterMap_joinLines (hn : f '\n' = none) (ls : List (List Char)) :
    (joinLines ls).filterMap f = ls.flatMap (·.filterMap f) := by
  cases ls with
  | nil => rfl
  | cons line rest =>
      rw [joinLines_cons, List.filterMap_append, List.filterMap_flatMap, List.flatMap_cons]
      simp [hn]

theorem flatMap_filterMap_linesFrom (hn : f '\n' = none) (hr : f '\r' = none)
    (line t : List Char) :
    (linesFrom line t).flatMap (·.filterMap f) = (line.reverse ++ t).filterMap f := by
  fun_induction linesFrom line t with
  | case1 line h => simp [List.isEmpty_iff.mp h]
  | case2 line h => simp
  | case3 line t ih =>
      rw [List.flatMap_cons, ih, filterMap_dropReturn hr]
      simp [hn]
  | case4 line c t hc ih =>
      rw [ih]
      simp

/-- **What is told of the characters of a text one by one**, line endings left out, is told of its
lines put together again. -/
theorem filterMap_joinLines_lines (hn : f '\n' = none) (hr : f '\r' = none) (t : List Char) :
    (joinLines (lines t)).filterMap f = t.filterMap f := by
  rw [filterMap_joinLines hn, lines, flatMap_filterMap_linesFrom hn hr]
  rfl

end Rejoin

theorem dropReturn_sublist (line : List Char) : (dropReturn line).Sublist line := by
  unfold dropReturn
  split
  · exact List.dropLast_sublist line
  · exact List.Sublist.refl line

theorem joinLines_linesFrom_sublist (line t : List Char) :
    (joinLines (linesFrom line t)).Sublist (line.reverse ++ t) := by
  fun_induction linesFrom line t with
  | case1 line h => exact List.nil_sublist _
  | case2 line h => simp [joinLines]
  | case3 line t ih =>
      have hrest : ((linesFrom [] t).flatMap ('\n' :: ·)).Sublist ('\n' :: t) := by
        cases hls : linesFrom [] t with
        | nil => exact List.nil_sublist _
        | cons next rest =>
            rw [hls, joinLines_cons] at ih
            simpa using ih
      rw [joinLines_cons]
      exact (dropReturn_sublist _).append hrest
  | case4 line c t hc ih => simpa using ih

/-- **The lines of a text put together again** are the text, or the text without some characters. -/
theorem joinLines_lines_sublist (t : List Char) : (joinLines (lines t)).Sublist t :=
  joinLines_linesFrom_sublist [] t

/-! ### Lines written one after the other -/

/-- A text stays on one line: it holds no character of a line ending. -/
def OneLine (t : List Char) : Prop := '\n' ∉ t ∧ '\r' ∉ t

instance (t : List Char) : Decidable (OneLine t) := inferInstanceAs (Decidable (_ ∧ _))

@[simp] theorem oneLine_append {s t : List Char} : OneLine (s ++ t) ↔ OneLine s ∧ OneLine t := by
  simp only [OneLine, List.mem_append, not_or]
  exact and_and_and_comm

theorem OneLine.dropReturn_eq {t : List Char} (h : OneLine t) : dropReturn t = t := by
  refine if_neg ?_
  intro hlast
  exact h.2 (List.mem_of_getLast? hlast)

theorem isDigit_of_mem_repr {n : Nat} {c : Char} (h : c ∈ n.repr.toList) : c.isDigit = true := by
  rw [Nat.repr_eq_ofList_toDigits, String.toList_ofList] at h
  exact Nat.isDigit_of_mem_toDigits (by decide) (by decide) h

/-- A number is written on one line. -/
@[simp] theorem oneLine_repr (n : Nat) : OneLine n.repr.toList := by
  constructor
  · intro h
    exact absurd (isDigit_of_mem_repr h) (by decide)
  · intro h
    exact absurd (isDigit_of_mem_repr h) (by decide)

/-- So are blanks. -/
@[simp] theorem oneLine_blanks (n : Nat) : OneLine (List.replicate n ' ') := by
  constructor
  · intro h
    exact absurd (List.eq_of_mem_replicate h) (by decide)
  · intro h
    exact absurd (List.eq_of_mem_replicate h) (by decide)

theorem linesFrom_append_newline {l : List Char} (hl : '\n' ∉ l) (line t : List Char) :
    linesFrom line (l ++ '\n' :: t) = dropReturn (line.reverse ++ l) :: linesFrom [] t := by
  induction l generalizing line with
  | nil => simp [linesFrom]
  | cons c l ih =>
      rw [List.mem_cons, not_or] at hl
      rw [List.cons_append, linesFrom, if_neg (Ne.symm hl.1), ih hl.2]
      simp

theorem lines_append_newline {line : List Char} (h : '\n' ∉ line) (text : List Char) :
    lines (line ++ '\n' :: text) = dropReturn line :: lines text := by
  rw [lines, linesFrom_append_newline h, ← lines]
  rfl

/-- What stands before a newline is read apart from what follows. -/
theorem linesFrom_append_newline_append (line a t : List Char) :
    linesFrom line (a ++ '\n' :: t) = linesFrom line (a ++ ['\n']) ++ linesFrom [] t := by
  induction a generalizing line with
  | nil => rfl
  | cons c a ih =>
      rw [List.cons_append, List.cons_append, linesFrom, linesFrom]
      split
      · rw [ih, List.cons_append]
      · exact ih (c :: line)

theorem lines_append_newline_append (a t : List Char) :
    lines (a ++ '\n' :: t) = lines (a ++ ['\n']) ++ lines t :=
  linesFrom_append_newline_append [] a t

theorem linesFrom_of_newline_notMem {line : List Char} (h : '\n' ∉ line) (front : List Char) :
    linesFrom front line = linesFrom (line.reverse ++ front) [] := by
  induction line generalizing front with
  | nil => rfl
  | cons c line ih =>
      rw [List.mem_cons, not_or] at h
      rw [show linesFrom front (c :: line) = linesFrom (c :: front) line from if_neg (Ne.symm h.1),
        ih h.2]
      simp

/-- **Lines that are written one after the other**, each with a newline behind it, are read as these
lines. -/
theorem lines_flatMap_newline {ls : List (List Char)} (h : ∀ l ∈ ls, OneLine l) :
    lines (ls.flatMap (· ++ ['\n'])) = ls := by
  induction ls with
  | nil => rfl
  | cons l ls ih =>
      obtain ⟨hl, hls⟩ := List.forall_mem_cons.mp h
      rw [List.flatMap_cons, List.append_assoc, List.singleton_append, lines_append_newline hl.1,
        ih hls, hl.dropReturn_eq]

end TapeMachine.Text
