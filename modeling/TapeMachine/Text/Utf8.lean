/-
**Characters and their bytes.**

Positions in a text are counted in characters.  Where bytes matter — the length of a colour code,
an offset handed to a file — a character counts as many as its UTF-8 encoding has.

Main definitions:

* `TapeMachine.Text.byteLength` — the number of bytes of a text;
* `TapeMachine.Text.byteOffset` — the offset in bytes of a character;
* `TapeMachine.Text.splitBytes` — a text cut after a number of bytes;
* `TapeMachine.Text.removeBytes` — a text without the bytes between two offsets.

Main results:

* `TapeMachine.Text.splitBytes_append` — a cut loses nothing;
* `TapeMachine.Text.splitBytes_eq_ok_iff`, `TapeMachine.Text.eq_of_splitBytes_eq_error` — when a cut
  gives two parts, and what it answers otherwise;
* `TapeMachine.Text.byteOffset_eq` — the offset of a character is the length of what precedes it;
* `TapeMachine.Text.splitBytes_byteOffset` — a cut at the offset of a character is a cut before it.
-/

import TapeMachine.Breach

set_option relaxedAutoImplicit false
set_option autoImplicit false

namespace TapeMachine.Text

/-- The number of bytes in the UTF-8 encoding of a text. -/
def byteLength : List Char → Nat
  | [] => 0
  | c :: t => c.utf8Size + byteLength t

/-- The offset in bytes of the character with the given number, counted from zero; the length of the
text when it has no such character. -/
def byteOffset : List Char → Nat → Nat
  | [], _ => 0
  | _ :: _, 0 => 0
  | c :: t, n + 1 => c.utf8Size + byteOffset t n

/-- A text cut after its first `n` bytes, which have to end with a character. -/
def splitBytes : Nat → List Char → Except Breach (List Char × List Char)
  | 0, t => .ok ([], t)
  | _ + 1, [] => .error .cutInsideCharacter
  | n + 1, c :: t =>
    if c.utf8Size ≤ n + 1 then
      match splitBytes (n + 1 - c.utf8Size) t with
      | .error b => .error b
      | .ok (front, rest) => .ok (c :: front, rest)
    else .error .cutInsideCharacter
termination_by _ t => t.length

/-- A text without the bytes from the offset `start` up to the offset `stop`; both have to lie
between two characters, and the second not before the first. -/
def removeBytes (start stop : Nat) (t : List Char) : Except Breach (List Char) := do
  let (front, rest) ← splitBytes stop t
  let (kept, _) ← splitBytes start front
  return kept ++ rest

/-- The offset of a character is the length of what precedes it. -/
theorem byteOffset_eq (t : List Char) (n : Nat) : byteOffset t n = byteLength (t.take n) := by
  fun_induction byteOffset t n with
  | case1 n => simp [byteLength]
  | case2 c t => simp [byteLength]
  | case3 c t n ih => simp [byteLength, ih]

/-- **A cut loses nothing.** -/
theorem splitBytes_append {n : Nat} {t front rest : List Char}
    (h : splitBytes n t = .ok (front, rest)) : front ++ rest = t := by
  fun_induction splitBytes n t generalizing front rest with
  | case1 t =>
      cases h
      rfl
  | case2 n => cases h
  | case3 n c t hc b hb ih => cases h
  | case4 n c t hc f r hfr ih =>
      cases h
      rw [List.cons_append, ih hfr]
  | case5 n c t hc => cases h

/-- A cut that falls between two parts of a text gives these parts. -/
theorem splitBytes_byteLength (front rest : List Char) :
    splitBytes (byteLength front) (front ++ rest) = .ok (front, rest) := by
  induction front with
  | nil => simp [byteLength, splitBytes]
  | cons c front ih =>
      obtain ⟨n, hn⟩ : ∃ n, byteLength (c :: front) = n + 1 :=
        Nat.exists_eq_add_one_of_ne_zero (by
          have := c.utf8Size_pos
          simp only [byteLength]
          omega)
      have hfits : c.utf8Size ≤ n + 1 := by
        simp only [← hn, byteLength]
        omega
      have hrest : n + 1 - c.utf8Size = byteLength front := by
        simp only [← hn, byteLength]
        omega
      rw [hn, List.cons_append, splitBytes, if_pos hfits, hrest, ih]

theorem byteLength_append (s t : List Char) :
    byteLength (s ++ t) = byteLength s + byteLength t := by
  induction s with
  | nil => simp [byteLength]
  | cons c s ih => simp [byteLength, ih, Nat.add_assoc]

/-- **When a cut gives two parts**: they are the text, and the first has the number of bytes. -/
theorem splitBytes_eq_ok_iff {n : Nat} {t front rest : List Char} :
    splitBytes n t = .ok (front, rest) ↔ front ++ rest = t ∧ byteLength front = n := by
  constructor
  · intro h
    refine ⟨splitBytes_append h, ?_⟩
    fun_induction splitBytes n t generalizing front rest with
    | case1 t =>
        cases h
        rfl
    | case2 n => cases h
    | case3 n c t hc b hb ih => cases h
    | case4 n c t hc f r hfr ih =>
        cases h
        rw [byteLength, ih hfr]
        omega
    | case5 n c t hc => cases h
  · rintro ⟨rfl, rfl⟩
    exact splitBytes_byteLength front rest

/-- A cut that gives no parts falls inside a character. -/
theorem eq_of_splitBytes_eq_error {n : Nat} {t : List Char} {b : Breach}
    (h : splitBytes n t = .error b) : b = .cutInsideCharacter := by
  fun_induction splitBytes n t with
  | case1 t => cases h
  | case2 n => exact (Except.error.inj h).symm
  | case3 n c t hc b' hb ih => exact ih (hb.trans h)
  | case4 n c t hc f r hfr ih => cases h
  | case5 n c t hc => exact (Except.error.inj h).symm

theorem byteOffset_length (front rest : List Char) :
    byteOffset (front ++ rest) front.length = byteLength front := by
  rw [byteOffset_eq, List.take_left]

/-- **A cut at the offset of a character is a cut before it.** -/
theorem splitBytes_byteOffset (front rest : List Char) :
    splitBytes (byteOffset (front ++ rest) front.length) (front ++ rest) = .ok (front, rest) := by
  rw [byteOffset_length, splitBytes_byteLength]

/-- Without the bytes between the offsets of two characters a text lacks what lies between them. -/
theorem removeBytes_byteOffset (front middle rest : List Char) :
    removeBytes (byteOffset (front ++ (middle ++ rest)) front.length)
        (byteOffset (front ++ (middle ++ rest)) (front.length + middle.length))
        (front ++ (middle ++ rest)) = .ok (front ++ rest) := by
  have hstop := splitBytes_byteOffset (front ++ middle) rest
  rw [List.append_assoc, List.length_append] at hstop
  have hstart := splitBytes_byteLength front middle
  rw [← byteOffset_length front (middle ++ rest)] at hstart
  simp only [removeBytes, hstop, hstart, bind, Except.bind, pure, Except.pure]

end TapeMachine.Text
