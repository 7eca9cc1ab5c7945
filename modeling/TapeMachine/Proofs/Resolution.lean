/-
**Where settings come from.**

Four numbers are settled on, and each has four sources: the command line, a variable of the
environment, an entry of the configuration text, and a default.  The first source that holds a
number should decide, and a source whose text spells no number should be passed over.  This is so
with one exception.  A variable that is there keeps the configuration text from being looked at,
whether or not it spells a number; so a variable that spells none hides the entry of the text
behind it, and the default holds in its place.

What should be is written down here apart from the resolution, in terms of the digits of a text.
The numbers do not depend on each other, and what is made of them depends on the numbers alone.

Main definitions:

* `TapeMachine.Text.Spells` — a text spells a number;
* `TapeMachine.Config.Setting` — the four numbers, with their names and their defaults;
* `TapeMachine.Config.Setting.FirstSpelled` — the number of the first source that holds one;
* `TapeMachine.Config.Setting.Hidden` — a variable hides an entry of the configuration text.

Main results:

* `TapeMachine.Text.readNat_eq_ok_iff` — **which texts are read as which numbers**;
* `TapeMachine.Config.Setting.firstSpelled_resolved_iff` — the first source that holds a number
  decides, exactly when no entry is hidden;
* `TapeMachine.Config.settings_follow_order_unless_hidden` — what settings are resolved to;
* `TapeMachine.Config.unreadable_variable_hides_entry` — that an entry can be hidden.
-/

import TapeMachine.Config.Settings

set_option relaxedAutoImplicit false
set_option autoImplicit false

namespace TapeMachine

/-! ### Numerals -/

namespace Text

/-- A text spells a number: it consists of decimal digits, at least one, with a plus sign in front
of them if one likes. -/
def Spells (t : List Char) (n : Nat) : Prop :=
  ∃ digits, (t = digits ∨ t = '+' :: digits) ∧ digits ≠ [] ∧ (∀ c ∈ digits, c.isDigit = true) ∧
    Nat.ofDigitChars 10 digits 0 = n

theorem digit?_eq (c : Char) :
    digit? c = if c.isDigit = true then some (c.toNat - '0'.toNat) else none := by
  have hiff : ('0' ≤ c ∧ c ≤ '9') ↔ c.isDigit = true := by
    simp only [Char.isDigit, Bool.and_eq_true, decide_eq_true_eq]
    rfl
  exact ite_congr (propext hiff) (fun _ => rfl) (fun _ => rfl)

/-- More digits make a number no smaller. -/
theorem le_ofDigitChars (t : List Char) (n : Nat) : n ≤ Nat.ofDigitChars 10 t n := by
  rw [Nat.ofDigitChars_eq_ofDigitChars_zero]
  calc n ≤ 10 ^ t.length * n := Nat.le_mul_of_pos_left n (Nat.pow_pos (by decide))
    _ ≤ _ := Nat.le_add_right _ _

theorem readDigits_eq_ok_iff {limit n m : Nat} {excess : NumeralError} {t : List Char}
    (hn : n ≤ limit) :
    readDigits limit excess n t = .ok m ↔
      (∀ c ∈ t, c.isDigit = true) ∧ Nat.ofDigitChars 10 t n = m ∧ m ≤ limit := by
  induction t generalizing n with
  | nil =>
      simp only [readDigits, Nat.ofDigitChars_nil, Except.ok.injEq, List.not_mem_nil, false_imp_iff,
        implies_true, true_and]
      refine ⟨?_, And.left⟩
      rintro rfl
      exact ⟨rfl, hn⟩
  | cons c t ih =>
      cases hc : c.isDigit with
      | false => simp [readDigits, digit?_eq, hc]
      | true =>
          rw [readDigits, digit?_eq, if_pos hc, Nat.ofDigitChars_cons, List.forall_mem_cons]
          dsimp only
          split
          · rename_i hle
            rw [ih hle, hc, eq_self_iff_true, true_and]
          · -- the digits that follow cannot bring the number back below the limit
            rename_i hgt
            have hmono := le_ofDigitChars t (10 * n + (c.toNat - '0'.toNat))
            refine iff_of_false (fun h => by cases h) ?_
            rintro ⟨-, rfl, hle⟩
            exact hgt (Nat.le_trans hmono hle)

theorem readSomeDigits_eq_ok_iff {limit n : Nat} {excess : NumeralError} {t : List Char} :
    readSomeDigits limit excess t = .ok n ↔
      t ≠ [] ∧ (∀ c ∈ t, c.isDigit = true) ∧ Nat.ofDigitChars 10 t 0 = n ∧ n ≤ limit := by
  unfold readSomeDigits
  split
  · rename_i h
    simp [List.isEmpty_iff.mp h]
  · rename_i h
    rw [readDigits_eq_ok_iff (Nat.zero_le _)]
    have hne : t ≠ [] := fun ht => h (List.isEmpty_iff.mpr ht)
    simp [hne]

/-- **Which texts are read as which numbers**: those that spell a number below the bound. -/
theorem readNat_eq_ok_iff {bound n : Nat} (hb : 0 < bound) {t : List Char} :
    readNat bound t = .ok n ↔ Spells t n ∧ n < bound := by
  have hlt : n ≤ bound - 1 ↔ n < bound := by omega
  have hplus : '+'.isDigit = false := by decide
  unfold readNat
  split
  · refine iff_of_false (fun h => by cases h) ?_
    rintro ⟨⟨digits, rfl | h, hne, -⟩, -⟩
    · exact hne rfl
    · cases h
  · rename_i t
    rw [readSomeDigits_eq_ok_iff, hlt]
    constructor
    · rintro ⟨hne, hall, hval, hn⟩
      exact ⟨⟨t, .inr rfl, hne, hall, hval⟩, hn⟩
    · rintro ⟨⟨digits, rfl | h, hne, hall, hval⟩, hn⟩
      · -- a plus sign is no digit
        have := hall '+' List.mem_cons_self
        rw [hplus] at this
        cases this
      · cases h
        exact ⟨hne, hall, hval, hn⟩
  · rename_i hnil hnoplus
    rw [readSomeDigits_eq_ok_iff, hlt]
    constructor
    · rintro ⟨hne, hall, hval, hn⟩
      exact ⟨⟨t, .inl rfl, hne, hall, hval⟩, hn⟩
    · rintro ⟨⟨digits, rfl | h, hne, hall, hval⟩, hn⟩
      · exact ⟨hne, hall, hval, hn⟩
      · exact absurd h (hnoplus digits)

end Text

namespace Config

open Text

/-- An entry is read as the number that it spells, blanks at its ends aside. -/
theorem readEntry_eq_some_iff {bound n : Nat} (hb : 0 < bound) {entry : List Char} :
    readEntry bound entry = some n ↔ Spells (trim entry) n ∧ n < bound := by
  rw [← readNat_eq_ok_iff hb, readEntry]
  cases readNat bound (trim entry) <;> simp [Except.toOption]

/-! ### The four numbers -/

/-- A number that is settled on. -/
inductive Setting where
  /-- The number of cells. -/
  | capacity
  /-- The modulus of a cell. -/
  | modulus
  /-- The normal delay in milliseconds. -/
  | normalDelay
  /-- The fast delay in milliseconds. -/
  | fastDelay
deriving DecidableEq

namespace Setting

/-- Numbers of this kind lie below this one. -/
def bound : Setting → Nat
  | capacity | normalDelay | fastDelay => word64
  | modulus => word16

/-- The number when no source holds one. -/
def default : Setting → Nat
  | capacity => Machine.defaultCapacity
  | modulus => Machine.defaultModulus
  | normalDelay => Delays.defaultNormalMillis
  | fastDelay => Delays.defaultFastMillis

/-- The name of the variable. -/
def variableName : Setting → String
  | capacity => "BF_CAPACITY"
  | modulus => "BF_MODULUS"
  | normalDelay => "BF_RUN_DELAY_MS"
  | fastDelay => "BF_FF_DELAY_MS"

/-- The key in the section of the settings. -/
def key : Setting → String
  | capacity => "capacity"
  | modulus => "modulus"
  | normalDelay => "run_delay_ms"
  | fastDelay => "fast_delay_ms"

/-- What the command line gives. -/
def flag (flags : Overrides) : Setting → Option Nat
  | capacity => flags.capacity
  | modulus => flags.modulus
  | normalDelay => flags.normalMillis
  | fastDelay => flags.fastMillis

/-- What the environment has in the variable. -/
def inEnvironment (env : String → Option String) (x : Setting) : Option (List Char) :=
  (env x.variableName).map String.toList

/-- What the configuration text assigns to the key, if there is a text. -/
def inText (file : Option String) (x : Setting) : Option (List Char) :=
  file.bind fun text => value? (assignments text.toList) engineSection.toList x.key.toList

/-- A source with a text holds a number. -/
def Holds (x : Setting) (entry : Option (List Char)) (n : Nat) : Prop :=
  ∃ e, entry = some e ∧ Spells (trim e) n ∧ n < x.bound

variable (x : Setting) (flags : Overrides) (file : Option String) (env : String → Option String)

/-- The number of the first source, in the order command line, variable, configuration text and
default, that holds a number. -/
inductive FirstSpelled : Nat → Prop
  | flag {n : Nat} (given : x.flag flags = some n) : FirstSpelled n
  | environment {n : Nat} (absent : x.flag flags = none)
      (held : x.Holds (x.inEnvironment env) n) : FirstSpelled n
  | text {n : Nat} (absent : x.flag flags = none)
      (without : ∀ k, ¬x.Holds (x.inEnvironment env) k)
      (held : x.Holds (x.inText file) n) : FirstSpelled n
  | default (absent : x.flag flags = none) (without : ∀ k, ¬x.Holds (x.inEnvironment env) k)
      (neither : ∀ k, ¬x.Holds (x.inText file) k) : FirstSpelled x.default

/-- A variable is there and holds no number, and hides an entry of the configuration text with a
number other than the default. -/
def Hidden : Prop :=
  x.flag flags = none ∧
    (∃ e, x.inEnvironment env = some e ∧ ∀ k, ¬x.Holds (x.inEnvironment env) k) ∧
    ∃ n, x.Holds (x.inText file) n ∧ n ≠ x.default

/-- The number that is settled on, from its own sources. -/
def resolved : Nat :=
  resolveNumber x.bound x.default (x.flag flags) (x.inEnvironment env) (x.inText file)

theorem bound_pos : 0 < x.bound := by
  cases x <;> decide

variable {x flags file env}

theorem holds_iff {entry : Option (List Char)} {n : Nat} :
    x.Holds entry n ↔ entry.bind (readEntry x.bound) = some n := by
  simp only [Holds, ← readEntry_eq_some_iff x.bound_pos, Option.bind_eq_some_iff]

theorem not_holds_iff {entry : Option (List Char)} :
    (∀ k, ¬x.Holds entry k) ↔ entry.bind (readEntry x.bound) = none := by
  simp only [holds_iff, Option.eq_none_iff_forall_ne_some, ne_eq]

theorem Holds.unique {entry : Option (List Char)} {n k : Nat} (h : x.Holds entry n)
    (h' : x.Holds entry k) : n = k :=
  Option.some.inj ((holds_iff.mp h).symm.trans (holds_iff.mp h'))

/-- There is only one first source. -/
theorem FirstSpelled.unique {n k : Nat} (h : x.FirstSpelled flags file env n)
    (h' : x.FirstSpelled flags file env k) : n = k := by
  cases h with
  | flag given =>
      cases h' with
      | flag given' => exact Option.some.inj (given.symm.trans given')
      | environment absent _ | text absent _ _ | default absent _ _ =>
          rw [given] at absent
          cases absent
  | environment absent held =>
      cases h' with
      | flag given =>
          rw [given] at absent
          cases absent
      | environment _ held' => exact held.unique held'
      | text _ without _ | default _ without _ => exact absurd held (without n)
  | text absent without held =>
      cases h' with
      | flag given =>
          rw [given] at absent
          cases absent
      | environment _ held' => exact absurd held' (without k)
      | text _ _ held' => exact held.unique held'
      | default _ _ neither => exact absurd held (neither n)
  | default absent without neither =>
      cases h' with
      | flag given =>
          rw [given] at absent
          cases absent
      | environment _ held' => exact absurd held' (without k)
      | text _ _ held' => exact absurd held' (neither k)
      | default _ _ _ => rfl

/-! ### What each of them is resolved to -/

theorem resolved_of_flag {n : Nat} (h : x.flag flags = some n) :
    x.resolved flags file env = n := by
  rw [resolved, h, resolveNumber_flag]

/-- A variable that is there decides, and the configuration text is not looked at. -/
theorem resolved_of_environment {e : List Char} (h : x.flag flags = none)
    (he : x.inEnvironment env = some e) :
    x.resolved flags file env =
      ((x.inEnvironment env).bind (readEntry x.bound)).getD x.default := by
  rw [resolved, h, he]
  rfl

theorem resolved_of_text (h : x.flag flags = none) (he : x.inEnvironment env = none) :
    x.resolved flags file env = ((x.inText file).bind (readEntry x.bound)).getD x.default := by
  rw [resolved, h, he]
  rfl

theorem resolved_of_hidden (h : x.Hidden flags file env) :
    x.resolved flags file env = x.default := by
  obtain ⟨hflag, ⟨e, he, hno⟩, -⟩ := h
  rw [resolved_of_environment hflag he, not_holds_iff.mp hno]
  rfl

theorem firstSpelled_of_not_hidden (h : ¬x.Hidden flags file env) :
    x.FirstSpelled flags file env (x.resolved flags file env) := by
  cases hflag : x.flag flags with
  | some n =>
      rw [resolved_of_flag hflag]
      exact .flag hflag
  | none =>
      cases he : x.inEnvironment env with
      | none =>
          have hno : ∀ k, ¬x.Holds (x.inEnvironment env) k := by
            rw [not_holds_iff, he]
            rfl
          rw [resolved_of_text hflag he]
          cases htext : (x.inText file).bind (readEntry x.bound) with
          | some n => exact .text hflag hno (holds_iff.mpr htext)
          | none => exact .default hflag hno (not_holds_iff.mpr htext)
      | some e =>
          rw [resolved_of_environment hflag he]
          cases hread : (x.inEnvironment env).bind (readEntry x.bound) with
          | some n => exact .environment hflag (holds_iff.mpr hread)
          | none =>
              -- the text is not looked at, but then it holds nothing other than the default
              have hno := not_holds_iff.mpr hread
              rw [Option.getD_none]
              cases htext : (x.inText file).bind (readEntry x.bound) with
              | none => exact .default hflag hno (not_holds_iff.mpr htext)
              | some n =>
                  have hn := holds_iff.mpr htext
                  have hdefault : n = x.default := by
                    refine Decidable.byContradiction fun hne => ?_
                    exact h ⟨hflag, ⟨e, he, hno⟩, n, hn, hne⟩
                  rw [← hdefault]
                  exact .text hflag hno hn

/-- **The first source that holds a number decides, exactly when no entry is hidden.** -/
theorem firstSpelled_resolved_iff :
    x.FirstSpelled flags file env (x.resolved flags file env) ↔ ¬x.Hidden flags file env := by
  refine ⟨?_, firstSpelled_of_not_hidden⟩
  intro hfirst hhidden
  obtain ⟨hflag, ⟨-, -, hno⟩, n, hn, hne⟩ := id hhidden
  rw [resolved_of_hidden hhidden] at hfirst
  exact hne ((FirstSpelled.text hflag hno hn).unique hfirst)

end Setting

/-! ### What is made of them -/

variable (flags : Overrides) (file : Option String) (env : String → Option String)

theorem resolve_eq :
    Settings.resolve flags file env =
      (Machine.ofShape (Setting.capacity.resolved flags file env)
        (Setting.modulus.resolved flags file env)).map fun machine =>
          ⟨machine, Delays.ofMillis (Setting.normalDelay.resolved flags file env)
            (Setting.fastDelay.resolved flags file env)⟩ := by
  cases file <;> rfl

theorem resolve_eq_ok_iff {s : Settings} :
    Settings.resolve flags file env = .ok s ↔
      s.machine.capacity = Setting.capacity.resolved flags file env ∧
      s.machine.modulus = Setting.modulus.resolved flags file env ∧
      s.delays = Delays.ofMillis (Setting.normalDelay.resolved flags file env)
        (Setting.fastDelay.resolved flags file env) := by
  rw [resolve_eq, map_eq_ok_iff]
  constructor
  · rintro ⟨machine, hmachine, rfl⟩
    obtain ⟨hc, hm⟩ := Machine.ofShape_eq_ok_iff.mp hmachine
    exact ⟨hc, hm, rfl⟩
  · obtain ⟨machine, delays⟩ := s
    rintro ⟨hc, hm, rfl⟩
    exact ⟨machine, Machine.ofShape_eq_ok_iff.mpr ⟨hc, hm⟩, rfl⟩

/-- **Settings follow the order of their sources, unless a variable hides an entry.**  Each of the
four numbers is that of the first of its own sources that holds a number, exactly when no variable
without a number hides an entry of the configuration text; then it is the default.  There are no
settings exactly when the number of cells is zero, which is reported first, or the modulus is out of
range; and otherwise the settings have exactly the four numbers. -/
theorem settings_follow_order_unless_hidden :
    (∀ x : Setting,
      (x.FirstSpelled flags file env (x.resolved flags file env) ↔ ¬x.Hidden flags file env) ∧
      (x.Hidden flags file env → x.resolved flags file env = x.default)) ∧
    (Settings.resolve flags file env = .error .noCells ↔
      Setting.capacity.resolved flags file env = 0) ∧
    (∀ m, Settings.resolve flags file env = .error (.modulusOutOfRange m) ↔
      Setting.capacity.resolved flags file env ≠ 0 ∧
      Setting.modulus.resolved flags file env = m ∧ ¬(2 ≤ m ∧ m ≤ 256)) ∧
    ∀ s, Settings.resolve flags file env = .ok s ↔
      s.machine.capacity = Setting.capacity.resolved flags file env ∧
      s.machine.modulus = Setting.modulus.resolved flags file env ∧
      s.delays = Delays.ofMillis (Setting.normalDelay.resolved flags file env)
        (Setting.fastDelay.resolved flags file env) := by
  refine ⟨?_, ?_, ?_, ?_⟩
  · intro x
    exact ⟨Setting.firstSpelled_resolved_iff, Setting.resolved_of_hidden⟩
  · rw [resolve_eq, map_eq_error_iff, Machine.ofShape_eq_noCells_iff]
  · intro m
    rw [resolve_eq, map_eq_error_iff, Machine.ofShape_eq_modulusOutOfRange_iff]
  · intro s
    exact resolve_eq_ok_iff flags file env

/-- The variable for the number of cells spells no number, and the configuration text asks for 64
cells, which is the number of the first source that holds one.  The machine has the default number
of cells; without the variable it has 64. -/
theorem unreadable_variable_hides_entry :
    Setting.capacity.FirstSpelled default (some "[engine]\ncapacity = 64\n")
        (fun name => if name = "BF_CAPACITY" then some "lots" else none) 64 ∧
      Settings.resolve default (some "[engine]\ncapacity = 64\n")
        (fun name => if name = "BF_CAPACITY" then some "lots" else none) =
          .ok ⟨Machine.standard, Delays.standard⟩ ∧
      (Settings.resolve default (some "[engine]\ncapacity = 64\n") fun _ => none).map
        (fun s => s.machine.capacity) = .ok 64 :=
  ⟨.text rfl (Setting.not_holds_iff.mpr rfl) (Setting.holds_iff.mpr rfl), rfl, rfl⟩

end Config

end TapeMachine
