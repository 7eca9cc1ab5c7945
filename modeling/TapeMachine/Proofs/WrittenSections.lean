/-
**Writing sections and reading them.**

A table of sections is written one line after the other: the name of a section in square brackets,
and below it each key with its value in double quotes.  Nothing in a value is escaped, and names and
keys may hold brackets and quotes of their own, so it has to be shown that no line is taken for
another kind of line.  The reason is in the ends of a line.  The line of an entry ends with a quote
and is no header, whatever its key begins with; the first equals sign is that behind the key; and
the outermost quotes are those that were written.

A text may say the same in other words.  Its lines may be indented and end in other ways; there may
be comments and blank lines, and lines in front of the first header; a section may be told in parts;
and a key may be given other values before the one that counts.  Each of these changes is described
as a step from some lines to others, and a step changes no value, from whatever lines it sets out.
So nothing has to be known of the order in which the changes are made.

Main definitions:

* `TapeMachine.Config.Opens`, `TapeMachine.Config.Silent`, `TapeMachine.Config.Assigns` — the kinds
  of lines, by what they look like;
* `TapeMachine.Config.Table` — a table of sections, with the lines and the text it is written as;
* `TapeMachine.Config.Reworded` — one change of the lines of a text;
* `TapeMachine.Config.Typed` — lines with their endings.

Main results:

* `TapeMachine.Config.readLine_of_silent`, `TapeMachine.Config.readLine_eq_header_iff`,
  `TapeMachine.Config.readLine_of_assigns` — **what a line is read as**;
* `TapeMachine.Config.Reworded.value?_eq` — **a change of the lines changes no value**;
* `TapeMachine.Config.assignmentsOfLines_of_typed` — nor does the way in which lines end;
* `TapeMachine.Config.Table.assignmentsOfLines_lines` — the lines of a table are read as the table;
* `TapeMachine.Config.written_sections_are_read_back` — what that means for all tables and texts.
-/

import Mathlib.Data.List.Nodup
import Mathlib.Logic.Relation
import TapeMachine.Config.Sections

set_option relaxedAutoImplicit false
set_option autoImplicit false

namespace TapeMachine.Config

open Text

/-! ### Kinds of lines -/

/-- A line opens a section: it is the name of the section in square brackets. -/
def Opens (line name : List Char) : Prop :=
  ∃ inner, trim line = '[' :: (inner ++ [']']) ∧ trim inner = name

/-- A line opens no section. -/
def NoHeader (line : List Char) : Prop := ∀ name, ¬Opens line name

/-- A line is blank or a comment. -/
def Silent (line : List Char) : Prop := trim line = [] ∨ (trim line).head? = some '#'

/-- A line gives a value to a key, which stands before the first equals sign. -/
def Assigns (line key rest : List Char) : Prop :=
  NoHeader line ∧ key.head? ≠ some '#' ∧
    ∃ front, line = front ++ '=' :: rest ∧ '=' ∉ front ∧ trim front = key

theorem brackets_iff {t : List Char} :
    t.head? = some '[' ∧ t.getLast? = some ']' ↔ ∃ inner, t = '[' :: (inner ++ [']']) := by
  constructor
  · rintro ⟨hhead, hlast⟩
    obtain ⟨front, rfl⟩ := List.getLast?_eq_some_iff.mp hlast
    cases front with
    | nil => cases hhead
    | cons c inner =>
        cases hhead
        exact ⟨inner, rfl⟩
  · rintro ⟨inner, rfl⟩
    exact ⟨rfl, List.getLast?_eq_some_iff.mpr ⟨'[' :: inner, rfl⟩⟩

theorem noHeader_iff {line : List Char} :
    NoHeader line ↔ ¬((trim line).head? = some '[' ∧ (trim line).getLast? = some ']') := by
  rw [brackets_iff]
  exact ⟨fun h ⟨inner, hline⟩ => h _ ⟨inner, hline, rfl⟩,
    fun h _ ⟨inner, hline, _⟩ => h ⟨inner, hline⟩⟩

instance (line : List Char) : Decidable (NoHeader line) := decidable_of_iff _ noHeader_iff.symm

theorem readLine_of_silent {line : List Char} (h : Silent line) : readLine line = .silent := by
  refine if_pos ?_
  rcases h with h | h
  · exact .inl (List.isEmpty_iff.mpr h)
  · exact .inr h

/-- **What is read as a header.** -/
theorem readLine_eq_header_iff {line name : List Char} :
    readLine line = .header name ↔ Opens line name := by
  unfold readLine readTrimmed
  split
  · next hsilent =>
      refine iff_of_false (fun h => by cases h) ?_
      rintro ⟨inner, hline, -⟩
      rw [hline] at hsilent
      rcases hsilent with h | h <;> cases h
  · split
    · next hends =>
        obtain ⟨inner, hline⟩ := brackets_iff.mp hends
        simp [Opens, hline]
    · next hends =>
        refine iff_of_false (fun h => ?_) (noHeader_iff.mpr hends name)
        split at h <;> cases h

theorem readLine_of_assigns {line key rest : List Char} (h : Assigns line key rest) :
    readLine line = .entry key (unquote (trim rest)) := by
  obtain ⟨hheader, hsharp, front, rfl, hfront, rfl⟩ := h
  have htrim : trim (front ++ '=' :: rest) = trimStart front ++ '=' :: trimEnd rest :=
    trim_append_cons (by decide) front rest
  have hsilent : ¬((trim (front ++ '=' :: rest)).isEmpty ∨
      (trim (front ++ '=' :: rest)).head? = some '#') := by
    rw [htrim]
    rintro (h | h)
    · simp at h
    · -- the line begins as the key does, or with the equals sign when there is no key
      rw [head?_trim] at hsharp
      cases hstart : trimStart front with
      | nil => simp [hstart] at h
      | cons c t =>
          rw [hstart] at h hsharp
          exact hsharp h
  have hkey : ∀ c ∈ trimStart front, decide (c ≠ '=') = true := by
    intro c hc
    refine decide_eq_true ?_
    rintro rfl
    exact hfront ((List.dropWhile_suffix _).subset hc)
  rw [readLine, readTrimmed, if_neg hsilent, if_neg (noHeader_iff.mp hheader), htrim,
    List.dropWhile_append_of_pos hkey, List.takeWhile_append_of_pos hkey]
  simp

/-! ### Assignments of some lines after others -/

/-- The section that is open behind some lines. -/
def openAfter : Option (List Char) → List (List Char) → Option (List Char)
  | current, [] => current
  | current, line :: rest =>
    match readLine line with
    | .header name => openAfter (some name) rest
    | _ => openAfter current rest

variable {current : Option (List Char)} {ls : List (List Char)}

theorem assignmentsOfLines_append (current : Option (List Char)) (ls more : List (List Char)) :
    assignmentsOfLines current (ls ++ more) =
      assignmentsOfLines current ls ++ assignmentsOfLines (openAfter current ls) more := by
  induction ls generalizing current with
  | nil => rfl
  | cons line ls ih =>
      rw [List.cons_append]
      simp only [assignmentsOfLines, openAfter]
      cases hline : readLine line with
      | silent => cases current <;> exact ih _
      | header name => exact ih _
      | entry key value => cases current <;> simp [ih]

theorem assignmentsOfLines_cons_of_silent {line : List Char} (h : readLine line = .silent) :
    assignmentsOfLines current (line :: ls) = assignmentsOfLines current ls := by
  cases current <;> simp only [assignmentsOfLines, h]

theorem assignmentsOfLines_cons_of_opens {line name : List Char} (h : Opens line name) :
    assignmentsOfLines current (line :: ls) = assignmentsOfLines (some name) ls := by
  simp only [assignmentsOfLines, readLine_eq_header_iff.mpr h]

theorem assignmentsOfLines_cons_of_assigns {name line key rest : List Char}
    (h : Assigns line key rest) :
    assignmentsOfLines (some name) (line :: ls) =
      ⟨name, key, unquote (trim rest)⟩ :: assignmentsOfLines (some name) ls := by
  simp only [assignmentsOfLines, readLine_of_assigns h]

theorem assignmentsOfLines_cons_congr {line line' : List Char} {ls' : List (List Char)}
    (hline : readLine line = readLine line')
    (h : ∀ current, assignmentsOfLines current ls = assignmentsOfLines current ls')
    (current : Option (List Char)) :
    assignmentsOfLines current (line :: ls) = assignmentsOfLines current (line' :: ls') := by
  simp only [assignmentsOfLines, hline, h]

theorem openAfter_of_noHeader (h : ∀ line ∈ ls, NoHeader line) :
    openAfter current ls = current := by
  induction ls generalizing current with
  | nil => rfl
  | cons line ls ih =>
      rw [List.forall_mem_cons] at h
      unfold openAfter
      split
      · next name hline => exact absurd (readLine_eq_header_iff.mp hline) (h.1 name)
      · exact ih h.2

/-- In front of the first header nothing is assigned. -/
theorem assignmentsOfLines_none (h : ∀ line ∈ ls, NoHeader line) :
    assignmentsOfLines none ls = [] := by
  induction ls with
  | nil => rfl
  | cons line ls ih =>
      rw [List.forall_mem_cons] at h
      unfold assignmentsOfLines
      split
      · next name hline => exact absurd (readLine_eq_header_iff.mp hline) (h.1 name)
      · next hcurrent => cases hcurrent
      · exact ih h.2

/-- A section that is assigned to was open at first or is opened by one of the lines. -/
theorem sectionName_of_mem {a : Assignment} (h : a ∈ assignmentsOfLines current ls) :
    current = some a.sectionName ∨ ∃ line ∈ ls, Opens line a.sectionName := by
  induction ls generalizing current with
  | nil => cases h
  | cons line ls ih =>
      unfold assignmentsOfLines at h
      split at h
      · next name hline =>
          rcases ih h with hname | ⟨line', hmem, hopens⟩
          · cases hname
            exact .inr ⟨line, List.mem_cons_self, readLine_eq_header_iff.mp hline⟩
          · exact .inr ⟨line', List.mem_cons_of_mem _ hmem, hopens⟩
      · rcases List.mem_cons.mp h with rfl | h
        · exact .inl rfl
        · exact (ih h).imp_right fun ⟨line', hmem, hopens⟩ =>
            ⟨line', List.mem_cons_of_mem _ hmem, hopens⟩
      · exact (ih h).imp_right fun ⟨line', hmem, hopens⟩ =>
          ⟨line', List.mem_cons_of_mem _ hmem, hopens⟩

/-- Some lines are none, or the first of them is a header. -/
def StartsSection (ls : List (List Char)) : Prop :=
  ∀ line, ls.head? = some line → ∃ name, Opens line name

/-- What stands behind a header does not hang on the section that was open before it. -/
theorem StartsSection.assignmentsOfLines_eq (h : StartsSection ls)
    (current : Option (List Char)) :
    assignmentsOfLines current ls = assignmentsOfLines none ls := by
  cases ls with
  | nil => rfl
  | cons line ls =>
      obtain ⟨name, hopens⟩ := h line rfl
      rw [assignmentsOfLines_cons_of_opens hopens, assignmentsOfLines_cons_of_opens hopens]

/-! ### Values of some assignments -/

section Values

variable {as bs cs : List Assignment} {s k v : List Char}

theorem value?_eq_none (h : ∀ a ∈ as, ¬(a.sectionName = s ∧ a.key = k)) : value? as s k = none := by
  rw [value?, Option.map_eq_none_iff, List.find?_eq_none]
  simpa using h

theorem mem_of_value?_eq_some (h : value? as s k = some v) : ⟨s, k, v⟩ ∈ as := by
  obtain ⟨a, hfind, rfl⟩ := Option.map_eq_some_iff.mp h
  have hkey := List.find?_some hfind
  have hmem := List.mem_of_find?_eq_some hfind
  obtain ⟨rfl, rfl⟩ : a.sectionName = s ∧ a.key = k := by simpa using hkey
  simpa using hmem

theorem exists_value?_of_mem {a : Assignment} (h : a ∈ as) :
    ∃ v, value? as a.sectionName a.key = some v := by
  refine Option.ne_none_iff_exists'.mp fun hnone => ?_
  rw [value?, Option.map_eq_none_iff, List.find?_eq_none] at hnone
  exact hnone a (List.mem_reverse.mpr h) (by simp)

/-- Where no key is assigned to twice, the value of a key is the one that is assigned to it. -/
theorem value?_eq_some_iff (hnodup : (as.map fun a => (a.sectionName, a.key)).Nodup) :
    value? as s k = some v ↔ ⟨s, k, v⟩ ∈ as := by
  refine ⟨mem_of_value?_eq_some, fun hmem => ?_⟩
  obtain ⟨w, hw⟩ := exists_value?_of_mem hmem
  have hsame := List.inj_on_of_nodup_map hnodup (mem_of_value?_eq_some hw) hmem rfl
  cases hsame
  exact hw

/-- An assignment does not count when there is one to the same key behind it. -/
theorem value?_cons_append_cons {a b : Assignment} (hname : a.sectionName = b.sectionName)
    (hkey : a.key = b.key) : value? (a :: (as ++ b :: bs)) s k = value? (as ++ b :: bs) s k := by
  have hcons : value? (a :: (as ++ b :: bs)) s k =
      (value? (as ++ b :: bs) s k).or (value? [a] s k) := value?_append [a] _ s k
  rw [hcons]
  by_cases ha : a.sectionName = s ∧ a.key = k
  · obtain ⟨rfl, rfl⟩ := ha
    have hmem : b ∈ as ++ b :: bs := by simp
    obtain ⟨w, hw⟩ := exists_value?_of_mem hmem
    rw [hname, hkey, hw]
    rfl
  · rw [@value?_eq_none [a] s k (by simpa using ha), Option.or_none]

/-- Assignments to different sections may change places. -/
theorem value?_swap {ds : List Assignment} {name : List Char}
    (hbs : ∀ b ∈ bs, b.sectionName = name) (hcs : ∀ c ∈ cs, c.sectionName ≠ name) :
    value? (as ++ (cs ++ (bs ++ ds))) s k = value? (as ++ (bs ++ (cs ++ ds))) s k := by
  simp only [value?_append]
  by_cases hs : s = name
  · rw [@value?_eq_none cs s k fun c hc h => hcs c hc (h.1.trans hs)]
    simp
  · rw [@value?_eq_none bs s k fun b hb h => hs (h.1.symm.trans (hbs b hb))]
    simp

end Values

/-! ### The same in other words -/

/-- One change of the lines of a text, by which it says the same in other words. -/
inductive Reworded : List (List Char) → List (List Char) → Prop where
  /-- A line is indented. -/
  | indented (above below : List (List Char)) (pad line : List Char)
      (hpad : ∀ c ∈ pad, isBlank c = true) :
      Reworded (above ++ line :: below) (above ++ (pad ++ line) :: below)
  /-- There is one more blank line or comment. -/
  | silent (above below : List (List Char)) (line : List Char) (hline : Silent line) :
      Reworded (above ++ below) (above ++ line :: below)
  /-- There is one more line in front of the first header, which is none itself. -/
  | preface (above below : List (List Char)) (line : List Char)
      (habove : ∀ l ∈ above, NoHeader l) (hline : NoHeader line) :
      Reworded (above ++ below) (above ++ line :: below)
  /-- A section is told in two parts, with other sections between them. -/
  | split (above first second others below : List (List Char)) (header again name : List Char)
      (hheader : Opens header name) (hagain : Opens again name)
      (hfirst : ∀ l ∈ first, NoHeader l) (hsecond : ∀ l ∈ second, NoHeader l)
      (hothers : StartsSection others) (hname : ∀ l ∈ others, ¬Opens l name)
      (hbelow : StartsSection below) :
      Reworded (above ++ header :: (first ++ (second ++ (others ++ below))))
        (above ++ header :: (first ++ (others ++ again :: (second ++ below))))
  /-- A key is given one more value, above the line of the same section that gives it a value. -/
  | outdated (above between below : List (List Char)) (old line key rest rest' : List Char)
      (hold : Assigns old key rest) (hline : Assigns line key rest')
      (hbetween : ∀ l ∈ between, NoHeader l) :
      Reworded (above ++ (between ++ line :: below)) (above ++ old :: (between ++ line :: below))

/-- **A change of the lines changes no value.** -/
theorem Reworded.value?_eq {ls ls' : List (List Char)} (h : Reworded ls ls') (s k : List Char) :
    value? (assignmentsOfLines none ls') s k = value? (assignmentsOfLines none ls) s k := by
  cases h with
  | indented above below pad line hpad =>
      have hread : readLine (pad ++ line) = readLine line := by
        rw [readLine, trim_append_left hpad, ← readLine]
      rw [assignmentsOfLines_append, assignmentsOfLines_append,
        assignmentsOfLines_cons_congr hread fun _ => rfl]
  | silent above below line hline =>
      rw [assignmentsOfLines_append, assignmentsOfLines_append,
        assignmentsOfLines_cons_of_silent (readLine_of_silent hline)]
  | preface above below line habove hline =>
      have hmore : ∀ l ∈ above ++ [line], NoHeader l := by
        intro l hl
        rcases List.mem_append.mp hl with hl | hl
        · exact habove l hl
        · rw [List.mem_singleton.mp hl]
          exact hline
      rw [show above ++ line :: below = (above ++ [line]) ++ below by simp,
        assignmentsOfLines_append, assignmentsOfLines_none hmore, openAfter_of_noHeader hmore,
        assignmentsOfLines_append, assignmentsOfLines_none habove, openAfter_of_noHeader habove]
  | split above first second others below header again name hheader hagain hfirst hsecond hothers
      hname hbelow =>
      have hpart : ∀ a ∈ assignmentsOfLines (some name) second, a.sectionName = name := by
        intro a ha
        rcases sectionName_of_mem ha with h | ⟨line, hmem, hopens⟩
        · exact (Option.some.inj h).symm
        · exact absurd hopens (hsecond line hmem _)
      have hother : ∀ a ∈ assignmentsOfLines none others, a.sectionName ≠ name := by
        rintro a ha rfl
        rcases sectionName_of_mem ha with h | ⟨line, hmem, hopens⟩
        · cases h
        · exact hname line hmem hopens
      simp only [assignmentsOfLines_append, assignmentsOfLines_cons_of_opens hheader,
        assignmentsOfLines_cons_of_opens hagain, openAfter_of_noHeader hfirst,
        openAfter_of_noHeader hsecond, hothers.assignmentsOfLines_eq, hbelow.assignmentsOfLines_eq]
      -- only the second part of the section and the sections between have changed places
      rw [← List.append_assoc, value?_swap hpart hother, List.append_assoc]
  | outdated above between below old line key rest rest' hold hline hbetween =>
      rw [assignmentsOfLines_append, assignmentsOfLines_append _ above]
      cases openAfter none above with
      | none =>
          -- no section is open, so neither the line nor the one below it counts
          have hmore : ∀ l ∈ old :: between, NoHeader l := by
            intro l hl
            rcases List.mem_cons.mp hl with rfl | hl
            · exact hold.1
            · exact hbetween l hl
          rw [show old :: (between ++ line :: below) = (old :: between) ++ line :: below by simp,
            assignmentsOfLines_append, assignmentsOfLines_none hmore, openAfter_of_noHeader hmore,
            assignmentsOfLines_append none between, assignmentsOfLines_none hbetween,
            openAfter_of_noHeader hbetween]
      | some name =>
          rw [assignmentsOfLines_cons_of_assigns hold, assignmentsOfLines_append _ between,
            openAfter_of_noHeader hbetween, assignmentsOfLines_cons_of_assigns hline,
            value?_append, value?_append _ (_ ++ _ :: _)]
          exact congrArg (Option.or · _) (value?_cons_append_cons rfl rfl)

/-- So do any changes, one after the other. -/
theorem value?_eq_of_reworded {ls ls' : List (List Char)}
    (h : Relation.ReflTransGen Reworded ls ls') (s k : List Char) :
    value? (assignmentsOfLines none ls') s k = value? (assignmentsOfLines none ls) s k := by
  induction h with
  | refl => rfl
  | tail _ hstep ih => rw [hstep.value?_eq, ih]

/-! ### Lines and their endings -/

/-- A text that consists of some lines.  Each ends with a newline, or with a carriage return and a
newline, and the last one need not end at all. -/
inductive Typed : List (List Char) → List Char → Prop where
  /-- There are no lines. -/
  | nil : Typed [] []
  /-- The last line has no ending. -/
  | last {line : List Char} (hline : '\n' ∉ line) : Typed [line] line
  /-- A line ends with a newline. -/
  | newline {line text : List Char} {ls : List (List Char)} (hline : '\n' ∉ line)
      (hrest : Typed ls text) : Typed (line :: ls) (line ++ '\n' :: text)
  /-- A line ends with a carriage return and a newline. -/
  | returned {line text : List Char} {ls : List (List Char)} (hline : '\n' ∉ line)
      (hrest : Typed ls text) : Typed (line :: ls) (line ++ '\r' :: '\n' :: text)

theorem readLine_dropReturn (line : List Char) : readLine (dropReturn line) = readLine line := by
  unfold dropReturn
  split
  · next hlast =>
      obtain ⟨front, rfl⟩ := List.getLast?_eq_some_iff.mp hlast
      rw [List.dropLast_concat, readLine, readLine,
        @trim_append_right ['\r'] (List.forall_mem_singleton.mpr rfl)]
  · rfl

/-- **How lines end makes no difference.** -/
theorem assignmentsOfLines_of_typed {ls : List (List Char)} {text : List Char} (h : Typed ls text)
    (current : Option (List Char)) :
    assignmentsOfLines current (lines text) = assignmentsOfLines current ls := by
  induction h generalizing current with
  | nil => rfl
  | @last line hline =>
      rw [lines, linesFrom_of_newline_notMem hline, List.append_nil, linesFrom]
      split
      · next hempty =>
          obtain rfl : line = [] := by simpa using hempty
          exact (assignmentsOfLines_cons_of_silent (readLine_of_silent (.inl rfl))).symm
      · rw [List.reverse_reverse]
  | @newline line text ls hline _ ih =>
      rw [lines_append_newline hline]
      exact assignmentsOfLines_cons_congr (readLine_dropReturn line) ih current
  | @returned line text ls hline _ ih =>
      have hreturn : '\n' ∉ line ++ ['\r'] := by simpa using hline
      rw [show line ++ '\r' :: '\n' :: text = (line ++ ['\r']) ++ '\n' :: text by simp,
        lines_append_newline hreturn]
      refine assignmentsOfLines_cons_congr ?_ ih current
      rw [readLine_dropReturn, readLine, readLine,
        trim_append_right (List.forall_mem_singleton.mpr rfl)]

/-! ### Tables -/

/-- A text can be the name of a section. -/
def IsName (name : List Char) : Prop := trim name = name ∧ '\n' ∉ name

instance (name : List Char) : Decidable (IsName name) := inferInstanceAs (Decidable (_ ∧ _))

/-- A text can be a key. -/
def IsKey (key : List Char) : Prop :=
  trim key = key ∧ '\n' ∉ key ∧ '=' ∉ key ∧ key.head? ≠ some '#'

instance (key : List Char) : Decidable (IsKey key) := inferInstanceAs (Decidable (_ ∧ _))

/-- The line in which a section opens. -/
def headerLine (name : List Char) : List Char := '[' :: (name ++ [']'])

/-- The line in which a key gets its value. -/
def entryLine (key value : List Char) : List Char :=
  key ++ ' ' :: '=' :: ' ' :: '"' :: (value ++ ['"'])

/-- A table of sections: their names, and for each of them keys and values. -/
structure Table where
  /-- The sections and their entries, in the order in which they are written. -/
  sections : List (List Char × List (List Char × List Char))
  /-- No section is written twice. -/
  nodup_names : (sections.map Prod.fst).Nodup
  /-- No key is written twice in a section. -/
  nodup_keys : ∀ sec ∈ sections, (sec.2.map Prod.fst).Nodup
  /-- No section is empty. -/
  entries_ne_nil : ∀ sec ∈ sections, sec.2 ≠ []
  /-- What sections may be called. -/
  isName : ∀ sec ∈ sections, IsName sec.1
  /-- What keys may be called. -/
  isKey : ∀ sec ∈ sections, ∀ entry ∈ sec.2, IsKey entry.1
  /-- Values stay on their lines. -/
  newline_notMem : ∀ sec ∈ sections, ∀ entry ∈ sec.2, '\n' ∉ entry.2

namespace Table

variable (t : Table)

/-- A table has a value for a key of a section. -/
def Holds (name key value : List Char) : Prop :=
  ∃ entries, (name, entries) ∈ t.sections ∧ (key, value) ∈ entries

/-- A table line by line. -/
def lines : List (List Char) :=
  t.sections.flatMap fun sec => headerLine sec.1 :: sec.2.map fun entry => entryLine entry.1 entry.2

/-- A table as it is written: each line with a newline behind it. -/
def text : List Char := t.lines.flatMap (· ++ ['\n'])

/-- What a table assigns. -/
def assigned : List Assignment :=
  t.sections.flatMap fun sec => sec.2.map fun entry => ⟨sec.1, entry.1, entry.2⟩

/-- A table is what is read from a text: the values, and the sections in which there are any. -/
structure ReadFrom (text : List Char) : Prop where
  /-- The values are those of the table. -/
  value : ∀ name key value, value? (assignments text) name key = some value ↔
    t.Holds name key value
  /-- The sections are those of the table. -/
  sectionName : ∀ name, (∃ a ∈ assignments text, a.sectionName = name) ↔
    ∃ entries, (name, entries) ∈ t.sections

end Table

/-- What stands in brackets or in quotes neither begins nor ends with a blank. -/
theorem trim_cons_concat {c d : Char} (hc : isBlank c = false) (hd : isBlank d = false)
    (t : List Char) : trim (c :: (t ++ [d])) = c :: (t ++ [d]) := by
  refine trim_eq_self (by simpa using hc) ?_
  rw [← List.cons_append, List.getLast?_concat]
  simpa using hd

theorem opens_headerLine {name : List Char} (h : IsName name) : Opens (headerLine name) name :=
  ⟨name, trim_cons_concat (by decide) (by decide) name, h.1⟩

/-- The line of an entry ends with a quote, so it is no header, whatever is in it. -/
theorem noHeader_entryLine (key value : List Char) : NoHeader (entryLine key value) := by
  rintro name ⟨inner, hinner, -⟩
  have hquote : trim (entryLine key value) =
      trimStart (key ++ ' ' :: '=' :: ' ' :: '"' :: value) ++ ['"'] := by
    rw [show entryLine key value = (key ++ ' ' :: '=' :: ' ' :: '"' :: value) ++ '"' :: [] by
      simp [entryLine], trim_append_cons (by decide)]
    rfl
  have hlast := congrArg List.getLast? (hquote.symm.trans hinner)
  rw [← List.cons_append, List.getLast?_concat, List.getLast?_concat] at hlast
  cases hlast

theorem assigns_entryLine {key : List Char} (h : IsKey key) (value : List Char) :
    Assigns (entryLine key value) key (' ' :: '"' :: (value ++ ['"'])) := by
  obtain ⟨htrim, -, hequals, hsharp⟩ := h
  refine ⟨noHeader_entryLine key value, hsharp, key ++ [' '], by simp [entryLine],
    by simpa using hequals, ?_⟩
  rw [trim_append_right (List.forall_mem_singleton.mpr rfl), htrim]

/-- The outermost quotes are the ones that are removed. -/
theorem unquote_trim_quoted (value : List Char) :
    unquote (trim (' ' :: '"' :: (value ++ ['"']))) = value := by
  have htrim : trim (' ' :: '"' :: (value ++ ['"'])) = '"' :: (value ++ ['"']) :=
    (trim_append_left (List.forall_mem_singleton.mpr rfl) _).trans
      (trim_cons_concat (by decide) (by decide) value)
  have hquotes : ('"' :: (value ++ ['"'])).head? = some '"' ∧
      ('"' :: (value ++ ['"'])).getLast? = some '"' ∧ 2 ≤ ('"' :: (value ++ ['"'])).length := by
    refine ⟨rfl, ?_, by simp⟩
    rw [← List.cons_append, List.getLast?_concat]
  rw [htrim, unquote, if_pos hquotes, List.tail_cons, List.dropLast_concat]

namespace Table

variable (t : Table)

/-- The lines of one section assign what stands in it. -/
theorem assignmentsOfLines_section {name : List Char} (hname : IsName name)
    {entries : List (List Char × List Char)} (hkeys : ∀ entry ∈ entries, IsKey entry.1)
    (current : Option (List Char)) :
    assignmentsOfLines current
        (headerLine name :: entries.map fun entry => entryLine entry.1 entry.2) =
      entries.map fun entry => ⟨name, entry.1, entry.2⟩ := by
  rw [assignmentsOfLines_cons_of_opens (opens_headerLine hname)]
  induction entries with
  | nil => rfl
  | cons entry entries ih =>
      rw [List.forall_mem_cons] at hkeys
      rw [List.map_cons, assignmentsOfLines_cons_of_assigns (assigns_entryLine hkeys.1 entry.2),
        unquote_trim_quoted, ih hkeys.2, List.map_cons]

/-- **The lines of a table are read as the table.** -/
theorem assignmentsOfLines_lines : assignmentsOfLines none t.lines = t.assigned := by
  have hsections : ∀ sections : List (List Char × List (List Char × List Char)),
      (∀ sec ∈ sections, IsName sec.1) →
      (∀ sec ∈ sections, ∀ entry ∈ sec.2, IsKey entry.1) → ∀ current,
      assignmentsOfLines current (sections.flatMap fun sec =>
          headerLine sec.1 :: sec.2.map fun entry => entryLine entry.1 entry.2) =
        sections.flatMap fun sec => sec.2.map fun entry => ⟨sec.1, entry.1, entry.2⟩ := by
    intro sections hnames hkeys
    induction sections with
    | nil => exact fun _ => rfl
    | cons sec sections ih =>
        intro current
        rw [List.forall_mem_cons] at hnames hkeys
        rw [List.flatMap_cons, List.flatMap_cons, assignmentsOfLines_append,
          assignmentsOfLines_section hnames.1 hkeys.1, ih hnames.2 hkeys.2]
  exact hsections t.sections t.isName t.isKey none

theorem mem_assigned_iff {name key value : List Char} :
    ⟨name, key, value⟩ ∈ t.assigned ↔ t.Holds name key value := by
  simp [assigned, Holds]

/-- No key of a section is assigned to twice. -/
theorem nodup_assigned : (t.assigned.map fun a => (a.sectionName, a.key)).Nodup := by
  have hsection : ∀ sec : List Char × List (List Char × List Char),
      (sec.2.map fun entry => (⟨sec.1, entry.1, entry.2⟩ : Assignment)).map
          (fun a => (a.sectionName, a.key)) =
        (sec.2.map Prod.fst).map fun key => (sec.1, key) := by
    intro sec
    simp
  simp only [assigned, List.map_flatMap, hsection]
  rw [List.nodup_flatMap]
  constructor
  · intro sec hsec
    exact (t.nodup_keys sec hsec).map fun _ _ h => (Prod.mk.inj h).2
  · refine (List.pairwise_map.mp t.nodup_names).imp fun {sec other} hne => ?_
    rintro a hsec hother
    obtain ⟨key, -, rfl⟩ := List.mem_map.mp hsec
    obtain ⟨key', -, hkey⟩ := List.mem_map.mp hother
    exact hne (congrArg Prod.fst hkey).symm

theorem typed_text : Typed t.lines t.text := by
  have hlines : ∀ ls : List (List Char), (∀ line ∈ ls, '\n' ∉ line) →
      Typed ls (ls.flatMap (· ++ ['\n'])) := by
    intro ls h
    induction ls with
    | nil => exact .nil
    | cons line ls ih =>
        rw [List.forall_mem_cons] at h
        have := Typed.newline h.1 (ih h.2)
        simpa using this
  refine hlines _ fun line hline => ?_
  obtain ⟨sec, hsec, hline⟩ := List.mem_flatMap.mp hline
  rcases List.mem_cons.mp hline with rfl | hline
  · simpa [headerLine] using (t.isName sec hsec).2
  · obtain ⟨entry, hentry, rfl⟩ := List.mem_map.mp hline
    have hkey := (t.isKey sec hsec entry hentry).2.1
    have hvalue := t.newline_notMem sec hsec entry hentry
    simp [entryLine, hkey, hvalue]

end Table

/-- **Sections that are written are read back.**  A table that is written section by section, each
value in quotes, is what is read from the text: every key has its value, whatever characters there
are in it, and there is nothing else.  It is still what is read once lines have been indented,
comments, blank lines and lines in front of the first header have been added, sections have been
told in parts, keys have been given other values before, and lines end in other ways. -/
theorem written_sections_are_read_back (t : Table) :
    t.ReadFrom t.text ∧
      ∀ ls text, Relation.ReflTransGen Reworded t.lines ls → Typed ls text → t.ReadFrom text := by
  have hread : ∀ ls text, Relation.ReflTransGen Reworded t.lines ls → Typed ls text →
      t.ReadFrom text := by
    intro ls text hwords htyped
    have hvalue : ∀ name key value, value? (assignments text) name key = some value ↔
        t.Holds name key value := by
      intro name key value
      rw [assignments, assignmentsOfLines_of_typed htyped, value?_eq_of_reworded hwords,
        t.assignmentsOfLines_lines, value?_eq_some_iff t.nodup_assigned, t.mem_assigned_iff]
    refine ⟨hvalue, fun name => ⟨?_, ?_⟩⟩
    · rintro ⟨a, ha, rfl⟩
      obtain ⟨value, hsome⟩ := exists_value?_of_mem ha
      obtain ⟨entries, hmem, -⟩ := (hvalue _ _ _).mp hsome
      exact ⟨entries, hmem⟩
    · rintro ⟨entries, hmem⟩
      obtain ⟨entry, hentry⟩ := List.exists_mem_of_ne_nil _ (t.entries_ne_nil _ hmem)
      have hsome := (hvalue name entry.1 entry.2).mpr ⟨entries, hmem, hentry⟩
      exact ⟨_, mem_of_value?_eq_some hsome, rfl⟩
  exact ⟨hread _ _ .refl t.typed_text, hread⟩

/-- A table with one section and one key. -/
def capacityTable : Table where
  sections := [("engine".toList, [("capacity".toList, "64".toList)])]
  nodup_names := by decide
  nodup_keys := by decide
  entries_ne_nil := by decide
  isName := by decide
  isKey := by decide
  newline_notMem := by decide

/-- The capacity is read where it is given three times, twice to no effect, and the section is told
in two parts. -/
theorem capacity_is_read_back : capacityTable.ReadFrom
    ("capacity = 1\r\n  [engine]\r\n# cells\ncapacity = 9\r\n".toList ++
      "[ engine ]\ncapacity = \"64\"".toList) := by
  have hold : Assigns "capacity = 9".toList "capacity".toList " 9".toList :=
    ⟨by decide, by decide, "capacity ".toList, by decide, by decide, by decide⟩
  have hentry := @assigns_entryLine "capacity".toList (by decide) "64".toList
  have hheader : Opens "[engine]".toList "engine".toList := ⟨"engine".toList, by decide, by decide⟩
  have hagain : Opens "[ engine ]".toList "engine".toList :=
    ⟨" engine ".toList, by decide, by decide⟩
  have h₁ : Relation.ReflTransGen Reworded capacityTable.lines
      ["[engine]".toList, "capacity = 9".toList, "capacity = \"64\"".toList] :=
    .single (.outdated ["[engine]".toList] [] [] _ _ _ _ _ hold hentry (by decide))
  have h₂ := h₁.tail (.split [] ["capacity = 9".toList] ["capacity = \"64\"".toList] [] [] _ _ _
    hheader hagain (by decide) (by decide) nofun nofun nofun)
  have h₃ := h₂.tail (.silent ["[engine]".toList] _ "# cells".toList (.inr (by decide)))
  have h₄ := h₃.tail (.indented [] _ [' ', ' '] _ (List.all_eq_true.mp rfl))
  have h₅ := h₄.tail (.preface [] _ "capacity = 1".toList nofun (by decide))
  exact (written_sections_are_read_back capacityTable).2 _ _ h₅
    (.returned (by decide) (.returned (by decide) (.newline (by decide) (.returned (by decide)
      (.newline (by decide) (.last (by decide)))))))

end TapeMachine.Config
