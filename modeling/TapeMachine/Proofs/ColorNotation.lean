/-
**How colours are written.**

A colour is written by its name, or as a number sign and three pairs of hexadecimal digits.  What is
read is almost this and not quite, and the difference comes from how a code of digits is taken
apart.  Its length is counted in bytes, and the pairs are cut out by bytes; so six bytes that are
not six characters pass for a code, and a cut may fall inside a character.  Each pair is then read
as a number, and a number may begin with a plus sign; so a plus sign passes for a first digit.

What should be is written down here apart from the reading, by the characters of a text.  The two
ways in which a text is misread are described in the same terms, and it is shown that there is no
third: all other texts are read as they are written.  The same is then true of a theme, part by
part, since the parts are looked up on their own.

Main definitions:

* `TapeMachine.Color.Written` — a text is a colour as it is written;
* `TapeMachine.Color.Torn`, `TapeMachine.Color.Signed` — the two ways to be misread;
* `TapeMachine.Theme.Due` — the colour that is due to a part of the screen.

Main results:

* `TapeMachine.Color.hexDigit?_eq_some_iff`, `TapeMachine.Color.hexPair?_eq_some_iff` — which
  characters are digits, and which texts are pairs;
* `TapeMachine.Color.read_eq_some_iff`, `TapeMachine.Color.read_eq_error_iff` — **what is read**,
  and when a cut falls inside a character;
* `TapeMachine.Theme.read_eq_ok_iff`, `TapeMachine.Theme.read_eq_error_iff` — the parts of a theme
  are read one by one;
* `TapeMachine.Color.colors_are_read_as_written_unless_misread` — what that means for all texts;
* `TapeMachine.Color.plus_sign_passes_for_a_digit` — that texts can be misread.
-/

import Mathlib.Data.List.Basic
import TapeMachine.Color.Theme

set_option relaxedAutoImplicit false
set_option autoImplicit false

namespace TapeMachine

open Text

namespace Color

/-! ### Digits -/

/-- A character is the hexadecimal digit of a number, as a small letter or as a capital. -/
def HexDigit (c : Char) (n : Nat) : Prop := n < 16 ∧ c.toLower = Nat.digitChar n

theorem hexDigit?_ascii : ∀ k < 128, ∀ n < 16,
    hexDigit? (Char.ofNat k) = some n ↔ (Char.ofNat k).toLower = Nat.digitChar n := by
  decide +kernel

theorem lt_of_hexDigit? {c : Char} {n : Nat} (h : hexDigit? c = some n) :
    n < 16 ∧ c.toNat < 128 := by
  have hle : ∀ {a b : Char}, a ≤ b ↔ a.toNat ≤ b.toNat := Iff.rfl
  have hdecimal : '0'.toNat = 48 ∧ '9'.toNat = 57 := ⟨rfl, rfl⟩
  have hsmall : 'a'.toNat = 97 ∧ 'f'.toNat = 102 := ⟨rfl, rfl⟩
  have hcapital : 'A'.toNat = 65 ∧ 'F'.toNat = 70 := ⟨rfl, rfl⟩
  simp only [hexDigit?, hle] at h
  split at h
  · cases h
    omega
  · split at h
    · cases h
      omega
    · split at h
      · cases h
        omega
      · cases h

/-- Only characters of seven bits have a small letter of seven bits. -/
theorem toNat_lt_of_toLower {c : Char} (h : c.toLower.toNat < 128) : c.toNat < 128 := by
  unfold Char.toLower at h
  split at h
  · next hc =>
      have hle : c.val.toNat ≤ 'Z'.val.toNat := UInt32.le_iff_toNat_le.mp hc.2
      exact Nat.lt_of_le_of_lt hle (by decide)
  · exact h

theorem HexDigit.toNat_lt {c : Char} {n : Nat} (h : HexDigit c n) : c.toNat < 128 := by
  have hdigit : ∀ n < 16, (Nat.digitChar n).toNat < 128 := by decide
  refine toNat_lt_of_toLower ?_
  rw [h.2]
  exact hdigit n h.1

/-- **Which characters are read as digits.** -/
theorem hexDigit?_eq_some_iff {c : Char} {n : Nat} : hexDigit? c = some n ↔ HexDigit c n := by
  constructor
  · intro h
    obtain ⟨hn, hc⟩ := lt_of_hexDigit? h
    have hascii := hexDigit?_ascii c.toNat hc n hn
    rw [Char.ofNat_toNat] at hascii
    exact ⟨hn, hascii.mp h⟩
  · intro h
    have hascii := hexDigit?_ascii c.toNat h.toNat_lt n h.1
    rw [Char.ofNat_toNat] at hascii
    exact hascii.mpr h.2

theorem not_hexDigit_plus (n : Nat) : ¬HexDigit '+' n := by
  rintro ⟨hn, h⟩
  have hall : ∀ n < 16, '+'.toLower ≠ Nat.digitChar n := by decide
  exact hall n hn h

/-! ### Pairs of digits -/

/-- Two characters spell a byte: they are its two hexadecimal digits. -/
def Pair (a b : Char) (v : UInt8) : Prop :=
  ∃ high low, HexDigit a high ∧ HexDigit b low ∧ v.toNat = 16 * high + low

/-- A plus sign stands in the place of the first digit. -/
def SignedPair (a b : Char) (v : UInt8) : Prop := a = '+' ∧ HexDigit b v.toNat

/-- Two characters are read as a byte. -/
def AnyPair (a b : Char) (v : UInt8) : Prop := Pair a b v ∨ SignedPair a b v

theorem ofNat_eq_iff {n : Nat} (h : n < 256) {v : UInt8} : UInt8.ofNat n = v ↔ v.toNat = n := by
  rw [← UInt8.toNat_inj, UInt8.toNat_ofNat', Nat.mod_eq_of_lt h, eq_comm]

theorem hexPair?_plus {b : Char} {v : UInt8} :
    hexPair? ['+', b] = some v ↔ HexDigit b v.toNat := by
  have hpair : hexPair? ['+', b] = (hexDigit? b).map UInt8.ofNat := by
    simp only [hexPair?, if_pos, Option.bind_eq_bind, Option.bind_some, Nat.mul_zero, Nat.zero_add,
      Option.pure_def]
    cases hexDigit? b <;> rfl
  rw [hpair, Option.map_eq_some_iff]
  constructor
  · rintro ⟨n, hn, hv⟩
    have hn := hexDigit?_eq_some_iff.mp hn
    rw [ofNat_eq_iff (Nat.lt_trans hn.1 (by decide))] at hv
    rwa [hv]
  · intro h
    exact ⟨v.toNat, hexDigit?_eq_some_iff.mpr h, UInt8.ofNat_toNat⟩

theorem hexPair?_of_ne {a b : Char} (ha : a ≠ '+') {v : UInt8} :
    hexPair? [a, b] = some v ↔ Pair a b v := by
  simp only [hexPair?, if_neg ha, Option.bind_eq_bind, Option.bind_eq_some_iff, Option.pure_def,
    Option.some.injEq, hexDigit?_eq_some_iff, Pair]
  refine exists_congr fun high => ⟨?_, ?_⟩
  · rintro ⟨hhigh, low, hlow, hv⟩
    rw [ofNat_eq_iff (by have := hhigh.1; have := hlow.1; omega)] at hv
    exact ⟨low, hhigh, hlow, hv⟩
  · rintro ⟨low, hhigh, hlow, hv⟩
    rw [← ofNat_eq_iff (by have := hhigh.1; have := hlow.1; omega)] at hv
    exact ⟨hhigh, low, hlow, hv⟩

/-- **Which texts are read as pairs of digits.** -/
theorem hexPair?_eq_some_iff {t : List Char} {v : UInt8} :
    hexPair? t = some v ↔ ∃ a b, t = [a, b] ∧ AnyPair a b v := by
  have hpair : ∀ a b, hexPair? [a, b] = some v ↔ AnyPair a b v := by
    intro a b
    by_cases ha : a = '+'
    · subst ha
      have hno : ¬Pair '+' b v := by
        rintro ⟨high, low, hhigh, -⟩
        exact not_hexDigit_plus high hhigh
      rw [hexPair?_plus, AnyPair, SignedPair, or_iff_right hno, and_iff_right rfl]
    · rw [hexPair?_of_ne ha, AnyPair, SignedPair, or_iff_left fun h => ha h.1]
  constructor
  · intro h
    match t, h with
    | [a, b], h => exact ⟨a, b, rfl, (hpair a b).mp h⟩
  · rintro ⟨a, b, rfl, h⟩
    exact (hpair a b).mpr h

/-- The characters of a pair take one byte each. -/
theorem AnyPair.byteLength {a b : Char} {v : UInt8} (h : AnyPair a b v) :
    byteLength [a, b] = 2 := by
  have hsize : ∀ {c : Char}, c.toNat < 128 → c.utf8Size = 1 := by
    intro c hc
    exact Char.utf8Size_eq_one_iff.mpr (UInt32.le_iff_toNat_le.mpr (Nat.le_of_lt_succ hc))
  have hab : a.toNat < 128 ∧ b.toNat < 128 := by
    rcases h with ⟨high, low, ha, hb, -⟩ | ⟨rfl, hb⟩
    · exact ⟨ha.toNat_lt, hb.toNat_lt⟩
    · exact ⟨by decide, hb.toNat_lt⟩
  simp only [Text.byteLength, hsize hab.1, hsize hab.2]

/-! ### Codes -/

/-- Three pairs of characters behind a number sign spell the three bytes of a mixture. -/
def Mixture (pair : Char → Char → UInt8 → Prop) (s : List Char) (color : Color) : Prop :=
  ∃ a b c d e f red green blue, s = ['#', a, b, c, d, e, f] ∧
    pair a b red ∧ pair c d green ∧ pair e f blue ∧ color = rgb red green blue

/-- A code of six bytes is cut into three pieces of two bytes. -/
def Pieces (code r g b : List Char) : Prop :=
  code = r ++ (g ++ b) ∧ byteLength r = 2 ∧ byteLength g = 2 ∧ byteLength b = 2

theorem Pieces.byteLength_eq {code r g b : List Char} (h : Pieces code r g b) :
    byteLength code = 6 := by
  obtain ⟨rfl, hr, hg, hb⟩ := h
  rw [byteLength_append, byteLength_append, hr, hg, hb]

theorem ofCode_eq_ok_iff {code : List Char} {color? : Option Color} (h : byteLength code = 6) :
    ofCode code = .ok color? ↔ ∃ r g b, Pieces code r g b ∧ ofPairs? r g b = color? := by
  simp only [ofCode, if_pos h]
  constructor
  · intro hread
    cases hr : splitBytes 2 code with
    | error e =>
        rw [hr] at hread
        cases hread
    | ok p =>
        rw [hr] at hread
        dsimp only [bind, Except.bind] at hread
        cases hg : splitBytes 2 p.2 with
        | error e =>
            rw [hg] at hread
            cases hread
        | ok q =>
            rw [hg] at hread
            obtain ⟨hcode, hr⟩ := splitBytes_eq_ok_iff.mp hr
            obtain ⟨hrest, hg⟩ := splitBytes_eq_ok_iff.mp hg
            rw [← hrest] at hcode
            have hb : byteLength q.2 = 2 := by
              rw [← hcode, byteLength_append, byteLength_append, hr, hg] at h
              omega
            exact ⟨p.1, q.1, q.2, ⟨hcode.symm, hr, hg, hb⟩, Except.ok.inj hread⟩
  · rintro ⟨r, g, b, ⟨rfl, hr, hg, -⟩, rfl⟩
    rw [splitBytes_eq_ok_iff.mpr ⟨rfl, hr⟩]
    dsimp only [bind, Except.bind]
    rw [splitBytes_eq_ok_iff.mpr ⟨rfl, hg⟩]
    rfl

theorem eq_of_ofCode_eq_error {code : List Char} {b : Breach} (h : ofCode code = .error b) :
    b = .cutInsideCharacter := by
  unfold ofCode at h
  split at h
  · cases hr : splitBytes 2 code with
    | error e =>
        rw [hr] at h
        cases h
        exact eq_of_splitBytes_eq_error hr
    | ok p =>
        rw [hr] at h
        dsimp only [bind, Except.bind] at h
        cases hg : splitBytes 2 p.2 with
        | error e =>
            rw [hg] at h
            cases h
            exact eq_of_splitBytes_eq_error hg
        | ok q =>
            rw [hg] at h
            cases h
  · cases h

theorem ofPairs?_eq_some_iff {r g b : List Char} {color : Color} :
    ofPairs? r g b = some color ↔ ∃ red green blue, hexPair? r = some red ∧
      hexPair? g = some green ∧ hexPair? b = some blue ∧ color = rgb red green blue := by
  unfold ofPairs?
  cases hexPair? r <;> cases hexPair? g <;> cases hexPair? b <;> simp [eq_comm]

/-- **Which codes are read as which mixtures.** -/
theorem ofCode_eq_some_iff {code : List Char} {color : Color} :
    ofCode code = .ok (some color) ↔ Mixture AnyPair ('#' :: code) color := by
  constructor
  · intro h
    by_cases hsix : byteLength code = 6
    · obtain ⟨r, g, b, ⟨rfl, -⟩, hread⟩ := (ofCode_eq_ok_iff hsix).mp h
      obtain ⟨red, green, blue, hr, hg, hb, rfl⟩ := ofPairs?_eq_some_iff.mp hread
      obtain ⟨a, b, rfl, hred⟩ := hexPair?_eq_some_iff.mp hr
      obtain ⟨c, d, rfl, hgreen⟩ := hexPair?_eq_some_iff.mp hg
      obtain ⟨e, f, rfl, hblue⟩ := hexPair?_eq_some_iff.mp hb
      exact ⟨a, b, c, d, e, f, red, green, blue, rfl, hred, hgreen, hblue, rfl⟩
    · rw [ofCode, if_neg hsix] at h
      cases h
  · rintro ⟨a, b, c, d, e, f, red, green, blue, hs, hr, hg, hb, rfl⟩
    have hpieces : Pieces code [a, b] [c, d] [e, f] :=
      ⟨(List.cons.inj hs).2, hr.byteLength, hg.byteLength, hb.byteLength⟩
    refine (ofCode_eq_ok_iff hpieces.byteLength_eq).mpr ⟨_, _, _, hpieces, ?_⟩
    exact ofPairs?_eq_some_iff.mpr ⟨red, green, blue, hexPair?_eq_some_iff.mpr ⟨a, b, rfl, hr⟩,
      hexPair?_eq_some_iff.mpr ⟨c, d, rfl, hg⟩, hexPair?_eq_some_iff.mpr ⟨e, f, rfl, hb⟩, rfl⟩

/-! ### Names -/

/-- The names of the colours, in small letters. -/
def names : List (String × Color) :=
  [("black", black), ("red", red), ("green", green), ("yellow", yellow), ("blue", blue),
    ("magenta", magenta), ("cyan", cyan), ("gray", gray), ("grey", gray),
    ("darkgray", darkGray), ("dark_grey", darkGray), ("darkgrey", darkGray),
    ("dark_gray", darkGray), ("lightred", lightRed), ("light_red", lightRed),
    ("lightgreen", lightGreen), ("light_green", lightGreen), ("lightblue", lightBlue),
    ("light_blue", lightBlue), ("lightmagenta", lightMagenta), ("light_magenta", lightMagenta),
    ("lightcyan", lightCyan), ("light_cyan", lightCyan), ("white", white)]

theorem named?_eq_some_iff {name : String} {color : Color} :
    named? name = some color ↔ (name, color) ∈ names := by
  constructor
  · intro h
    unfold named? at h
    split at h <;> cases h <;> decide
  · intro h
    have hall : ∀ entry ∈ names, named? entry.1 = some entry.2 := by decide
    exact hall _ h

/-- A text is a name, in letters of any case. -/
def Named (s : List Char) (color : Color) : Prop :=
  ∃ name, (name, color) ∈ names ∧ s.map Char.toLower = name.toList

/-- **Which texts are read as names.** -/
theorem ofName?_eq_some_iff {s : List Char} {color : Color} :
    ofName? s = some color ↔ Named s color := by
  rw [ofName?, named?_eq_some_iff]
  constructor
  · intro h
    exact ⟨_, h, String.toList_ofList.symm⟩
  · rintro ⟨name, h, hs⟩
    rwa [hs, String.ofList_toList]

/-- No name begins with a number sign. -/
theorem not_named_code (code : List Char) (color : Color) : ¬Named ('#' :: code) color := by
  rintro ⟨name, h, hs⟩
  have hall : ∀ entry ∈ names, entry.1.toList.head? ≠ some '#' := by decide
  refine hall _ h ?_
  rw [← hs]
  rfl

/-! ### What is written and what is read -/

/-- **A colour as it is written**: a number sign and six hexadecimal digits, or a name. -/
def Written (s : List Char) (color : Color) : Prop := Mixture Pair s color ∨ Named s color

/-- In the place of a first digit stands a plus sign, and otherwise the text is a mixture. -/
def Signed (s : List Char) (color : Color) : Prop := '+' ∈ s ∧ Mixture AnyPair s color

/-- Behind the number sign stand six bytes that cannot be cut into three pieces of two. -/
def Torn (s : List Char) : Prop :=
  ∃ code, s = '#' :: code ∧ byteLength code = 6 ∧ ¬∃ r g b, Pieces code r g b

theorem mixture_anyPair_iff {s : List Char} {color : Color} :
    Mixture AnyPair s color ↔ Mixture Pair s color ∨ Signed s color := by
  constructor
  · intro h
    by_cases hplus : '+' ∈ s
    · exact .inr ⟨hplus, h⟩
    · obtain ⟨a, b, c, d, e, f, red, green, blue, rfl, hr, hg, hb, rfl⟩ := h
      have hdigit : ∀ {x y v}, AnyPair x y v → x ∈ ['#', a, b, c, d, e, f] → Pair x y v := by
        rintro x y v (hxy | ⟨rfl, -⟩) hx
        · exact hxy
        · exact absurd hx hplus
      exact .inl ⟨a, b, c, d, e, f, red, green, blue, rfl, hdigit hr (by simp),
        hdigit hg (by simp), hdigit hb (by simp), rfl⟩
  · rintro (⟨a, b, c, d, e, f, red, green, blue, rfl, hr, hg, hb, rfl⟩ | ⟨-, h⟩)
    · exact ⟨a, b, c, d, e, f, red, green, blue, rfl, .inl hr, .inl hg, .inl hb, rfl⟩
    · exact h

/-- **What is read as which colour.** -/
theorem read_eq_some_iff {value : List Char} {color : Color} :
    read value = .ok (some color) ↔ Written (trim value) color ∨ Signed (trim value) color := by
  rw [Written, or_right_comm, ← mixture_anyPair_iff]
  unfold read
  split
  · next code hs =>
      rw [ofCode_eq_some_iff, hs, or_iff_left (not_named_code code color)]
  · next hno =>
      have hmixture : ¬Mixture AnyPair (trim value) color := by
        rintro ⟨a, b, c, d, e, f, red, green, blue, hs, -⟩
        exact hno _ hs
      rw [Except.ok.injEq, ofName?_eq_some_iff, or_iff_right hmixture]

/-- **When a cut falls inside a character.** -/
theorem read_eq_error_iff {value : List Char} {b : Breach} :
    read value = .error b ↔ b = .cutInsideCharacter ∧ Torn (trim value) := by
  unfold read
  split
  · next code hs =>
      constructor
      · intro h
        refine ⟨eq_of_ofCode_eq_error h, code, hs, ?_, ?_⟩
        · by_contra hsix
          rw [ofCode, if_neg hsix] at h
          cases h
        · rintro ⟨r, g, b, hpieces⟩
          have := (ofCode_eq_ok_iff hpieces.byteLength_eq).mpr ⟨r, g, b, hpieces, rfl⟩
          cases h.symm.trans this
      · rintro ⟨rfl, code', hcode, hsix, hno⟩
        obtain rfl := (List.cons.inj (hs.symm.trans hcode)).2
        cases h : ofCode code with
        | ok color? =>
            obtain ⟨r, g, b, hpieces, -⟩ := (ofCode_eq_ok_iff hsix).mp h
            exact absurd ⟨r, g, b, hpieces⟩ hno
        | error b => rw [eq_of_ofCode_eq_error h]
  · next hno =>
      refine iff_of_false (fun h => by cases h) ?_
      rintro ⟨-, code, hs, -⟩
      exact hno code hs

/-- The two ways to be misread. -/
def Misread (s : List Char) : Prop := Torn s ∨ ∃ color, Signed s color

/-- A colour is read wherever one is written, that colour, and nothing is read elsewhere. -/
def ReadAsWritten (value : List Char) : Prop :=
  ∃ color?, read value = .ok color? ∧ ∀ color, color? = some color ↔ Written (trim value) color

/-- What has a sign is no colour as it is written. -/
theorem Signed.not_written {s : List Char} {color color' : Color} (h : Signed s color) :
    ¬Written s color' := by
  obtain ⟨hplus, a, b, c, d, e, f, -, -, -, rfl, -⟩ := h
  rintro (⟨_, _, _, _, _, _, _, _, _, hs, hr, hg, hb, -⟩ | hnamed)
  · cases hs
    have hdigit : ∀ {x y v}, Pair x y v → '+' ≠ x ∧ '+' ≠ y := by
      rintro x y v ⟨high, low, hx, hy, -⟩
      constructor
      · rintro rfl
        exact not_hexDigit_plus high hx
      · rintro rfl
        exact not_hexDigit_plus low hy
    simp [hdigit hr, hdigit hg, hdigit hb] at hplus
  · exact not_named_code _ _ hnamed

/-- **All other texts are read as they are written.** -/
theorem readAsWritten_iff {value : List Char} : ReadAsWritten value ↔ ¬Misread (trim value) := by
  constructor
  · rintro ⟨color?, hread, hwritten⟩ (htorn | ⟨color, hsigned⟩)
    · cases hread.symm.trans (read_eq_error_iff.mpr ⟨rfl, htorn⟩)
    · have hcolor := read_eq_some_iff.mpr (.inr hsigned)
      exact hsigned.not_written ((hwritten color).mp (Except.ok.inj (hread.symm.trans hcolor)))
  · intro h
    cases hread : read value with
    | error b => exact absurd (.inl (read_eq_error_iff.mp hread).2) h
    | ok color? =>
        refine ⟨color?, hread, fun color => ?_⟩
        have hcolor := @read_eq_some_iff value color
        rw [hread, Except.ok.injEq, or_iff_left fun hsigned => h (.inr ⟨color, hsigned⟩)] at hcolor
        exact hcolor

end Color

/-! ### Themes -/

namespace Theme

/-- What a configuration text assigns to the key of a part. -/
def entry? (content : String) (part : Part) : Option (List Char) :=
  Config.value? (Config.assignments content.toList) colorsSection.toList part.key.toList

/-- **The colour that is due to a part**: that of its own entry where one is written there, and else
its default. -/
inductive Due (content : String) (part : Part) : Color → Prop
  | written {value : List Char} {color : Color} (entry : entry? content part = some value)
      (written : Color.Written (trim value) color) : Due content part color
  | default (without : ∀ value color, entry? content part = some value →
      ¬Color.Written (trim value) color) : Due content part part.default

theorem colorOf_of_entry {content : String} {part : Part} {value : List Char}
    (h : entry? content part = some value) :
    colorOf (Config.assignments content.toList) part =
      (Color.read value).map fun color => color.getD part.default := by
  unfold entry? at h
  simp only [colorOf, h]

theorem colorOf_of_none {content : String} {part : Part} (h : entry? content part = none) :
    colorOf (Config.assignments content.toList) part = .ok part.default := by
  unfold entry? at h
  simp only [colorOf, h]

theorem colorsOf_eq_ok {entries : List Config.Assignment} {ps : List Part} {f : Part → Color}
    (h : ∀ part ∈ ps, colorOf entries part = .ok (f part)) :
    colorsOf entries ps = .ok (ps.map fun part => (part, f part)) := by
  induction ps with
  | nil => rfl
  | cons part ps ih =>
      rw [List.forall_mem_cons] at h
      simp only [colorsOf, h.1, ih h.2, List.map_cons]

theorem exists_of_colorsOf_eq_error {entries : List Config.Assignment} {ps : List Part}
    {b : Breach} (h : colorsOf entries ps = .error b) :
    ∃ part ∈ ps, colorOf entries part = .error b := by
  induction ps with
  | nil => cases h
  | cons part ps ih =>
      unfold colorsOf at h
      split at h
      · next b' hpart =>
          cases h
          exact ⟨part, List.mem_cons_self, hpart⟩
      · split at h
        · next b' hrest =>
            cases h
            obtain ⟨part', hmem, hpart'⟩ := ih hrest
            exact ⟨part', List.mem_cons_of_mem part hmem, hpart'⟩
        · cases h

theorem exists_of_colorsOf_eq_ok {entries : List Config.Assignment} {ps : List Part}
    {chosen : List (Part × Color)} (h : colorsOf entries ps = .ok chosen) :
    ∀ part ∈ ps, ∃ color, colorOf entries part = .ok color := by
  induction ps generalizing chosen with
  | nil =>
      intro part hmem
      cases hmem
  | cons part ps ih =>
      unfold colorsOf at h
      split at h
      · cases h
      · next color hpart =>
          split at h
          · cases h
          · next hrest => exact List.forall_mem_cons.mpr ⟨⟨color, hpart⟩, ih hrest⟩

/-- **The parts of a theme are read one by one.** -/
theorem read_eq_ok_iff {content : String} {theme : Theme} :
    read content = .ok theme ↔
      ∀ part, colorOf (Config.assignments content.toList) part = .ok (theme part) := by
  have hread : ∀ f : Part → Color,
      (∀ part, colorOf (Config.assignments content.toList) part = .ok (f part)) →
        read content = .ok f := by
    intro f hf
    rw [read, colorsOf_eq_ok fun part _ => hf part]
    refine congrArg Except.ok (funext fun part => ?_)
    dsimp only
    rw [List.lookup_graph f (mem_parts part), Option.getD_some]
  constructor
  · intro h
    obtain ⟨chosen, hchosen, -⟩ := map_eq_ok_iff.mp h
    have hall := exists_of_colorsOf_eq_ok hchosen
    choose f hf using fun part => hall part (mem_parts part)
    cases h.symm.trans (hread f hf)
    exact hf
  · exact hread theme

theorem colorOf_eq_error_iff {content : String} {part : Part} {b : Breach} :
    colorOf (Config.assignments content.toList) part = .error b ↔
      ∃ value, entry? content part = some value ∧ Color.read value = .error b := by
  cases hentry : entry? content part with
  | none => simp [colorOf_of_none hentry]
  | some value => simp [colorOf_of_entry hentry, map_eq_error_iff]

/-- **When a theme cannot be read**: a part has an entry with a cut inside a character. -/
theorem read_eq_error_iff {content : String} {b : Breach} :
    read content = .error b ↔ b = .cutInsideCharacter ∧
      ∃ part value, entry? content part = some value ∧ Color.Torn (trim value) := by
  constructor
  · intro h
    obtain ⟨part, -, hpart⟩ := exists_of_colorsOf_eq_error (map_eq_error_iff.mp h)
    obtain ⟨value, hvalue, hread⟩ := colorOf_eq_error_iff.mp hpart
    obtain ⟨hb, htorn⟩ := Color.read_eq_error_iff.mp hread
    exact ⟨hb, part, value, hvalue, htorn⟩
  · rintro ⟨rfl, part, value, hvalue, htorn⟩
    have hpart := colorOf_eq_error_iff.mpr
      ⟨value, hvalue, Color.read_eq_error_iff.mpr ⟨rfl, htorn⟩⟩
    cases h : read content with
    | ok theme => cases hpart.symm.trans (read_eq_ok_iff.mp h part)
    | error b =>
        obtain ⟨part', -, hpart'⟩ := exists_of_colorsOf_eq_error (map_eq_error_iff.mp h)
        obtain ⟨value', -, hread⟩ := colorOf_eq_error_iff.mp hpart'
        rw [(Color.read_eq_error_iff.mp hread).1]

/-- The colour of a part whose entry is read as it is written is the one that is due to it. -/
theorem exists_due {content : String} {part : Part}
    (h : ∀ value, entry? content part = some value → Color.ReadAsWritten value) :
    ∃ color, colorOf (Config.assignments content.toList) part = .ok color ∧
      Due content part color := by
  cases hentry : entry? content part with
  | none =>
      refine ⟨part.default, colorOf_of_none hentry, .default fun value color hvalue => ?_⟩
      cases hentry.symm.trans hvalue
  | some value =>
      obtain ⟨color?, hread, hwritten⟩ := h value hentry
      rw [colorOf_of_entry hentry, hread]
      refine ⟨_, rfl, ?_⟩
      cases hcolor : color? with
      | some color => exact .written hentry ((hwritten color).mp hcolor)
      | none =>
          refine .default fun value' color hvalue' hcolor' => ?_
          cases hentry.symm.trans hvalue'
          cases hcolor.symm.trans ((hwritten color).mpr hcolor')

/-- No default is a mixture. -/
theorem default_ne_rgb (part : Part) (red green blue : UInt8) :
    part.default ≠ .rgb red green blue := by
  cases part <;> exact Color.noConfusion

/-- A colour that is read from a sign is due to no part. -/
theorem Due.not_signed {content : String} {part : Part} {color : Color} {value : List Char}
    (h : Due content part color) (hvalue : entry? content part = some value) :
    ¬Color.Signed (trim value) color := by
  intro hsigned
  cases hcolor : h with
  | written entry written =>
      cases hvalue.symm.trans entry
      exact hsigned.not_written written
  | default without =>
      obtain ⟨-, _, _, _, _, _, _, red, green, blue, -, -, -, -, hmixture⟩ := hsigned
      exact default_ne_rgb part red green blue hmixture

/-- **Every part gets the colour that is due to it**, exactly when no entry is misread. -/
theorem exists_read_due_iff {content : String} :
    (∃ theme, read content = .ok theme ∧ ∀ part, Due content part (theme part)) ↔
      ∀ part value, entry? content part = some value → ¬Color.Misread (trim value) := by
  constructor
  · rintro ⟨theme, hread, hdue⟩ part value hvalue (htorn | ⟨color, hsigned⟩)
    · cases hread.symm.trans (read_eq_error_iff.mpr ⟨rfl, part, value, hvalue, htorn⟩)
    · have hcolor : colorOf (Config.assignments content.toList) part = .ok color := by
        rw [colorOf_of_entry hvalue, Color.read_eq_some_iff.mpr (.inr hsigned)]
        rfl
      obtain rfl := Except.ok.inj ((read_eq_ok_iff.mp hread part).symm.trans hcolor)
      exact (hdue part).not_signed hvalue hsigned
  · intro h
    choose theme hcolor hdue using fun part => exists_due fun value hvalue =>
      Color.readAsWritten_iff.mpr (h part value hvalue)
    exact ⟨theme, read_eq_ok_iff.mpr hcolor, hdue⟩

end Theme

/-! ### All texts -/

namespace Color

/-- **Colours are read as they are written, unless they are misread.**  A text is misread when its
six bytes cannot be cut into pairs, and then a contract is broken, or when a plus sign stands in the
place of a first digit, and then it is read as a zero.  All other texts are read as the colour that
is written there, and as none when none is.  So a theme gives to every part the colour that is due
to it, exactly when no part has an entry that is misread; and there is no theme exactly when a part
has an entry that cannot be cut. -/
theorem colors_are_read_as_written_unless_misread (value : List Char) (content : String) :
    (ReadAsWritten value ↔ ¬Misread (trim value)) ∧
    (∀ color, read value = .ok (some color) ↔
      Written (trim value) color ∨ Signed (trim value) color) ∧
    (∀ b, read value = .error b ↔ b = .cutInsideCharacter ∧ Torn (trim value)) ∧
    ((∃ theme, Theme.read content = .ok theme ∧
        ∀ part, Theme.Due content part (theme part)) ↔
      ∀ part entry, Theme.entry? content part = some entry → ¬Misread (trim entry)) ∧
    ∀ b, Theme.read content = .error b ↔ b = .cutInsideCharacter ∧
      ∃ part entry, Theme.entry? content part = some entry ∧ Torn (trim entry) := by
  refine ⟨readAsWritten_iff, ?_, ?_, Theme.exists_read_due_iff, ?_⟩
  · intro color
    exact read_eq_some_iff
  · intro b
    exact read_eq_error_iff
  · intro b
    exact Theme.read_eq_error_iff

/-- Three pairs with plus signs are no colour as it is written, and are read as a mixture.  Six
bytes with a character across a cut are none either, and break a contract. -/
theorem plus_sign_passes_for_a_digit :
    (¬∃ color, Written (trim "#+f+f+f".toList) color) ∧
      read "#+f+f+f".toList = .ok (some (rgb 15 15 15)) ∧
      (¬∃ color, Written (trim "#aébcd".toList) color) ∧
      read "#aébcd".toList = .error .cutInsideCharacter := by
  have hsigned : Signed (trim "#+f+f+f".toList) (rgb 15 15 15) := by
    have hpair : AnyPair '+' 'f' 15 := .inr ⟨rfl, by decide, by decide⟩
    exact ⟨by decide, '+', 'f', '+', 'f', '+', 'f', 15, 15, 15, rfl, hpair, hpair, hpair, rfl⟩
  have htorn : read "#aébcd".toList = .error .cutInsideCharacter := by decide +kernel
  refine ⟨?_, read_eq_some_iff.mpr (.inr hsigned), ?_, htorn⟩
  · rintro ⟨color, hwritten⟩
    exact hsigned.not_written hwritten
  · rintro ⟨color, hwritten⟩
    cases htorn.symm.trans (read_eq_some_iff.mpr (.inl hwritten))

end Color

end TapeMachine
