/-
**Blank characters.**

The characters that count as white space in a text, as the Unicode property of that name lists
them, and the removal of white space from both ends of a text.

Main definitions:

* `TapeMachine.Text.isBlank` — the property;
* `TapeMachine.Text.trim` — a text without the blanks at its ends.

Main results:

* `TapeMachine.Text.trim_eq_self` — a text that neither begins nor ends with a blank is left alone;
* `TapeMachine.Text.trim_append_left`, `TapeMachine.Text.trim_append_right` — blanks at the ends of
  a text do not count;
* `TapeMachine.Text.trim_append_cons` — a character that is no blank keeps the two sides apart.
-/

set_option relaxedAutoImplicit false
set_option autoImplicit false

namespace TapeMachine.Text

/-- The characters with the Unicode property `White_Space`. -/
def isBlank (c : Char) : Bool :=
  let n := c.toNat
  (0x09 ≤ n && n ≤ 0x0D) || n = 0x20 || n = 0x85 || n = 0xA0 || n = 0x1680 ||
    (0x2000 ≤ n && n ≤ 0x200A) || n = 0x2028 || n = 0x2029 || n = 0x202F || n = 0x205F ||
    n = 0x3000

/-- A text without the blanks at its beginning. -/
def trimStart (t : List Char) : List Char := t.dropWhile isBlank

/-- A text without the blanks at its end. -/
def trimEnd (t : List Char) : List Char := (trimStart t.reverse).reverse

/-- A text without the blanks at its ends. -/
def trim (t : List Char) : List Char := trimEnd (trimStart t)

theorem trimStart_eq_self {t : List Char} (h : ∀ c, t.head? = some c → isBlank c = false) :
    trimStart t = t := by
  cases t with
  | nil => rfl
  | cons c t => simp [trimStart, h c rfl]

/-- **Trimming leaves a trimmed text alone.** -/
theorem trim_eq_self {t : List Char} (h₁ : ∀ c, t.head? = some c → isBlank c = false)
    (h₂ : ∀ c, t.getLast? = some c → isBlank c = false) : trim t = t := by
  have h : trimStart t.reverse = t.reverse :=
    trimStart_eq_self (by simpa [List.head?_reverse] using h₂)
  simp [trim, trimEnd, trimStart_eq_self h₁, h]

/-! ### Blanks at the ends -/

theorem trimStart_append_left {pad : List Char} (h : ∀ c ∈ pad, isBlank c = true)
    (t : List Char) : trimStart (pad ++ t) = trimStart t := by
  induction pad with
  | nil => rfl
  | cons c pad ih =>
      rw [List.forall_mem_cons] at h
      rw [List.cons_append, trimStart, List.dropWhile_cons_of_pos h.1]
      exact ih h.2

theorem trimEnd_append_right {pad : List Char} (h : ∀ c ∈ pad, isBlank c = true)
    (t : List Char) : trimEnd (t ++ pad) = trimEnd t := by
  rw [trimEnd, List.reverse_append, trimStart_append_left (fun c hc => h c (by simpa using hc)),
    ← trimEnd]

/-- **Blanks in front of a text do not count.** -/
theorem trim_append_left {pad : List Char} (h : ∀ c ∈ pad, isBlank c = true) (t : List Char) :
    trim (pad ++ t) = trim t := by
  rw [trim, trimStart_append_left h, ← trim]

/-- **Blanks behind a text do not count.** -/
theorem trim_append_right {pad : List Char} (h : ∀ c ∈ pad, isBlank c = true) (t : List Char) :
    trim (t ++ pad) = trim t := by
  unfold trim
  rw [trimStart, List.dropWhile_append]
  split
  · next hempty =>
      have hpad := trimStart_append_left h []
      rw [List.append_nil] at hpad
      rw [← trimStart, hpad, trimStart, trimStart, List.isEmpty_iff.mp hempty, List.dropWhile_nil]
  · rw [← trimStart, trimEnd_append_right h]

theorem exists_trimStart (t : List Char) :
    ∃ pad, (∀ c ∈ pad, isBlank c = true) ∧ pad ++ trimStart t = t :=
  ⟨t.takeWhile isBlank, List.all_eq_true.mp List.all_takeWhile, List.takeWhile_append_dropWhile⟩

theorem exists_trimEnd (t : List Char) :
    ∃ pad, (∀ c ∈ pad, isBlank c = true) ∧ trimEnd t ++ pad = t := by
  obtain ⟨pad, hpad, ht⟩ := exists_trimStart t.reverse
  refine ⟨pad.reverse, fun c hc => hpad c (by simpa using hc), ?_⟩
  rw [trimEnd, ← List.reverse_append, ht, List.reverse_reverse]

@[simp] theorem trim_trimStart (t : List Char) : trim (trimStart t) = trim t := by
  obtain ⟨pad, hpad, ht⟩ := exists_trimStart t
  rw [← trim_append_left hpad (trimStart t), ht]

@[simp] theorem trim_trimEnd (t : List Char) : trim (trimEnd t) = trim t := by
  obtain ⟨pad, hpad, ht⟩ := exists_trimEnd t
  rw [← trim_append_right hpad (trimEnd t), ht]

/-- **A character that is no blank keeps the two sides of a text apart.** -/
theorem trim_append_cons {c : Char} (hc : isBlank c = false) (front rest : List Char) :
    trim (front ++ c :: rest) = trimStart front ++ c :: trimEnd rest := by
  have hkeep : ∀ (s t : List Char), trimStart (s ++ c :: t) = trimStart s ++ c :: t := by
    intro s t
    induction s with
    | nil => simp [trimStart, hc]
    | cons d s ih =>
        simp only [trimStart, List.cons_append, List.dropWhile_cons] at ih ⊢
        split
        · exact ih
        · rfl
  rw [trim, hkeep, trimEnd, List.reverse_append, List.reverse_cons, List.append_assoc,
    List.singleton_append, hkeep, List.reverse_append, List.reverse_cons, List.reverse_reverse,
    List.append_assoc, List.singleton_append, ← trimEnd]

theorem isBlank_of_head?_trimStart {t : List Char} {c : Char}
    (h : (trimStart t).head? = some c) : isBlank c = false := by
  have := List.head?_dropWhile_not isBlank t
  rw [trimStart] at h
  rw [h] at this
  simpa using this

/-- What a text begins with does not hang on the blanks at its end. -/
theorem head?_trim (t : List Char) : (trim t).head? = (trimStart t).head? := by
  cases h : trimStart t with
  | nil =>
      rw [trim, h]
      rfl
  | cons c t' =>
      have hc : isBlank c = false := isBlank_of_head?_trimStart (t := t) (by rw [h]; rfl)
      have := trim_append_cons hc [] t'
      rw [List.nil_append, ← h, trim_trimStart] at this
      rw [this]
      rfl

end TapeMachine.Text
