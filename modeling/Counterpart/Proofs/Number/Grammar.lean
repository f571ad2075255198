import Counterpart.Proofs.Number.Decimal
import Counterpart.Proofs.Number.Leading

/-!
# The grammar of numerals

Which texts write which floating-point numbers, told independently of how they are read.

* `Spells` and `IsNumeral`: the grammar, for digits of any script (`SpellsDigits`) or in ASCII (`IsPlainDigits`);
* `IsLetter` and `isLetter_of_mem_words`: what the words are made of;
* `Spells.isSolid`: nothing that spells a number has a blank in it.
-/

namespace Counterpart.Number

open Json (decimal digitsText signed)

/-! ## The grammar -/

/-- Digits of any script, with an underscore between two of them or not, and their values. -/
inductive SpellsDigits : Text → List Nat → Prop
  | nil : SpellsDigits [] []
  | digit {c : Char} {t : Text} {d : Nat} {digits : List Nat} (h : Text.decimalValue? c = some d)
      (hrest : SpellsDigits t digits) : SpellsDigits (c :: t) (d :: digits)
  | underscore {c : Char} {t : Text} {d : Nat} {digits : List Nat} (h : Text.decimalValue? c = some d)
      (hrest : SpellsDigits t digits) (hne : digits ≠ []) : SpellsDigits (c :: '_' :: t) (d :: digits)

/-- ASCII digits and their values. -/
def IsPlainDigits (t : Text) (digits : List Nat) : Prop := t = digitsText digits ∧ ∀ d ∈ digits, d < 10

section Grammar

variable (Digits : Text → List Nat → Prop)

/-- The texts that spell the digits before the point and those behind it. -/
inductive SpellsDecimal : Text → List Nat → List Nat → Prop
  | whole {t : Text} {digits : List Nat} (h : Digits t digits) (hne : digits ≠ []) : SpellsDecimal t digits []
  | point {t u : Text} {digits places : List Nat} (h : Digits t digits) (hplaces : Digits u places)
      (hne : digits ≠ [] ∨ places ≠ []) : SpellsDecimal (t ++ '.' :: u) digits places

/-- The texts that spell a power of ten. -/
inductive SpellsPower : Text → Int → Prop
  | one : SpellsPower [] 0
  | tenTo {e : Char} {sign t : Text} {negative : Bool} {digits : List Nat} (he : e = 'e' ∨ e = 'E')
      (hsign : (sign, negative) ∈ signs) (h : Digits t digits) (hne : digits ≠ []) :
      SpellsPower (e :: (sign ++ t)) (signed negative (decimal digits))

/-- The texts that spell a number, if `Digits` tells which ones spell digits.  The words may be in upper case. -/
inductive Spells : Text → Binary64 → Prop
  | infinite {sign word : Text} {negative : Bool} (hsign : (sign, negative) ∈ signs)
      (hword : word.map Char.toLower ∈ infinityWords) : Spells (sign ++ word) (.infinite negative)
  | nan {sign word : Text} {negative : Bool} (hsign : (sign, negative) ∈ signs)
      (hword : word.map Char.toLower = "nan".toList) : Spells (sign ++ word) .nan
  | decimal {sign t u : Text} {negative : Bool} {whole places : List Nat} {power : Int}
      (hsign : (sign, negative) ∈ signs) (hdecimal : SpellsDecimal Digits t whole places)
      (hpower : SpellsPower Digits u power) :
      Spells (sign ++ (t ++ u)) (.nearest negative (decimal (whole ++ places) * 10 ^ (power - places.length)))

end Grammar

/-- The numerals: texts that spell a number, with blanks around it. -/
def IsNumeral (t : Text) (x : Binary64) : Prop :=
  ∃ before core after, t = before ++ (core ++ after) ∧ (∀ c ∈ before, isNumeralBlank c = true) ∧
    (∀ c ∈ after, isNumeralBlank c = true) ∧ Spells SpellsDigits core x

/-! ## Digits -/

/-- A digit is one of the ten characters from a zero on, and its distance from that is its value. -/
lemma exists_of_decimalValue? {c : Char} {d : Nat} (h : Text.decimalValue? c = some d) :
    ∃ start ∈ Text.decimalZeros, start ≤ c.toNat ∧ c.toNat ≤ start + 9 ∧ d = c.toNat - start := by
  obtain ⟨start, hfind, rfl⟩ := Option.map_eq_some_iff.mp h
  have hrange := List.find?_some hfind
  simp only [Bool.and_eq_true, decide_eq_true_eq] at hrange
  exact ⟨start, List.mem_of_find?_eq_some hfind, hrange.1, hrange.2, rfl⟩

/-- The value of a digit is less than ten. -/
lemma decimalValue?_lt {c : Char} {d : Nat} (h : Text.decimalValue? c = some d) : d < 10 := by
  obtain ⟨start, -, hlow, hhigh, rfl⟩ := exists_of_decimalValue? h
  omega

/-- The values of digits that are spelled are less than ten. -/
lemma SpellsDigits.lt {t : Text} {digits : List Nat} (h : SpellsDigits t digits) : ∀ d ∈ digits, d < 10 := by
  induction h with
  | nil => simp
  | digit h hrest ih => exact List.forall_mem_cons.mpr ⟨decimalValue?_lt h, ih⟩
  | underscore h hrest hne ih => exact List.forall_mem_cons.mpr ⟨decimalValue?_lt h, ih⟩

/-- There are no digits before the ASCII ones, nor between these and U+0660. -/
lemma decimalValue?_eq_none {c : Char} (h : c.toNat < 0x30 ∨ 0x39 < c.toNat ∧ c.toNat < 0x660) :
    Text.decimalValue? c = none := by
  by_contra hne
  obtain ⟨d, hd⟩ := Option.ne_none_iff_exists'.mp hne
  obtain ⟨start, hstart, hlow, hhigh, -⟩ := exists_of_decimalValue? hd
  have hall : ∀ start ∈ Text.decimalZeros, start = 0x30 ∨ 0x660 ≤ start := by decide
  have := hall start hstart
  omega

/-- An ASCII digit has its own value. -/
lemma decimalValue?_digitChar {d : Nat} (h : d < 10) : Text.decimalValue? (Nat.digitChar d) = some d := by
  have hall : ∀ d < 10, Text.decimalValue? (Nat.digitChar d) = some d := by decide
  exact hall d h

/-- What has no value as a digit is no ASCII digit. -/
lemma not_isDigit_of_decimalValue? {c : Char} (h : Text.decimalValue? c = none) : c.isDigit = false := by
  by_contra hne
  obtain ⟨d, hd, rfl⟩ := exists_of_isDigit (eq_true_of_ne_false hne)
  exact absurd h (by simp [decimalValue?_digitChar hd])

/-- A power begins with its letter. -/
lemma SpellsPower.head {Digits : Text → List Nat → Prop} {t : Text} {power : Int} (h : SpellsPower Digits t power)
    {c : Char} (hc : t.head? = some c) : c = 'e' ∨ c = 'E' := by
  cases h with
  | one => exact nomatch hc
  | tenTo he =>
    obtain rfl := Option.some.inj hc
    exact he

/-- A power ends the digits before it. -/
lemma SpellsPower.endsDigits {Digits : Text → List Nat → Prop} {t : Text} {power : Int}
    (h : SpellsPower Digits t power) : EndsDigits t := by
  intro c hc
  rcases h.head hc with rfl | rfl <;> rfl

/-! ## Words -/

/-- The words, in lower case. -/
def words : List Text := "nan".toList :: infinityWords

/-- What a word is made of. -/
def IsLetter (c : Char) : Prop := 0x41 ≤ c.toNat ∧ c.toNat ≤ 0x7A ∧ c ≠ '_'

/-- What becomes a letter of the alphabet in lower case is one. -/
lemma isLetter_of_toLower {c : Char} (h : 0x61 ≤ c.toLower.toNat ∧ c.toLower.toNat ≤ 0x7A) : IsLetter c := by
  have hne : c ≠ '_' := by
    rintro rfl
    exact absurd h (by decide)
  unfold Char.toLower at h
  split at h
  · next hupper =>
    have hlow : 0x41 ≤ c.toNat := UInt32.le_iff_toNat_le.mp hupper.1
    have hhigh : c.toNat ≤ 0x5A := UInt32.le_iff_toNat_le.mp hupper.2
    exact ⟨hlow, by omega, hne⟩
  · exact ⟨by omega, h.2, hne⟩

/-- The words are made of letters. -/
lemma isLetter_of_mem_words {word : Text} (hword : word.map Char.toLower ∈ words) : ∀ c ∈ word, IsLetter c := by
  have hall : ∀ word ∈ words, word.all (fun c => 0x61 ≤ c.toNat ∧ c.toNat ≤ 0x7A) = true := by decide
  intro c hc
  have hlower := List.all_eq_true.mp (hall _ hword) _ (List.mem_map_of_mem hc)
  exact isLetter_of_toLower (of_decide_eq_true hlower)

/-! ## No blanks -/

/-- What lies outside all ranges of blanks is no blank. -/
lemma isNumeralBlank_eq_false {c : Char} (h : ∀ range ∈ Text.blankRanges, c.toNat < range.1 ∨ range.2 < c.toNat) :
    isNumeralBlank c = false := by
  have hblank : Text.isBlank c = false := by
    unfold Text.isBlank Text.inRanges
    rw [List.any_eq_false]
    intro range hrange hin
    simp only [Bool.and_eq_true, decide_eq_true_eq] at hin
    have := h range hrange
    omega
  unfold isNumeralBlank
  rw [hblank, Bool.false_and]

/-- A digit of any script is no blank. -/
lemma not_isNumeralBlank_digit {c : Char} {d : Nat} (h : Text.decimalValue? c = some d) : isNumeralBlank c = false := by
  obtain ⟨start, hstart, hlow, hhigh, -⟩ := exists_of_decimalValue? h
  have hall : ∀ start ∈ Text.decimalZeros, ∀ range ∈ Text.blankRanges, start + 9 < range.1 ∨ range.2 < start := by
    decide
  refine isNumeralBlank_eq_false fun range hrange => ?_
  have := hall start hstart range hrange
  omega

/-- A letter is no blank. -/
lemma not_isNumeralBlank_letter {c : Char} (h : IsLetter c) : isNumeralBlank c = false := by
  have hall : ∀ range ∈ Text.blankRanges, range.2 < 0x41 ∨ 0x7A < range.1 := by decide
  refine isNumeralBlank_eq_false fun range hrange => ?_
  have := hall range hrange
  have := h.1
  have := h.2.1
  omega

/-- A text without blanks. -/
def IsSolid (t : Text) : Prop := ∀ c ∈ t, isNumeralBlank c = false

lemma isSolid_nil : IsSolid [] := fun _ h => nomatch h

lemma IsSolid.cons {c : Char} {t : Text} (hc : isNumeralBlank c = false) (ht : IsSolid t) : IsSolid (c :: t) :=
  List.forall_mem_cons.mpr ⟨hc, ht⟩

lemma IsSolid.append {t u : Text} (ht : IsSolid t) (hu : IsSolid u) : IsSolid (t ++ u) :=
  List.forall_mem_append.mpr ⟨ht, hu⟩

/-- A sign has no blanks in it. -/
lemma isSolid_sign {sign : Text} {negative : Bool} (hsign : (sign, negative) ∈ signs) : IsSolid sign := by
  have hall : ∀ pair ∈ signs, pair.1.all (fun c => !isNumeralBlank c) = true := by decide
  intro c hc
  simpa using List.all_eq_true.mp (hall _ hsign) c hc

/-- The words have no blanks in them. -/
lemma isSolid_word {word : Text} (hword : word.map Char.toLower ∈ words) : IsSolid word :=
  fun c hc => not_isNumeralBlank_letter (isLetter_of_mem_words hword c hc)

/-- Digits have no blanks in them, whatever their script. -/
lemma SpellsDigits.isSolid {t : Text} {digits : List Nat} (h : SpellsDigits t digits) : IsSolid t := by
  induction h with
  | nil => exact isSolid_nil
  | digit h hrest ih => exact ih.cons (not_isNumeralBlank_digit h)
  | underscore h hrest hne ih => exact (ih.cons (by decide)).cons (not_isNumeralBlank_digit h)

/-- Digits with a point have no blanks in them. -/
lemma SpellsDecimal.isSolid {t : Text} {whole places : List Nat} (h : SpellsDecimal SpellsDigits t whole places) :
    IsSolid t := by
  cases h with
  | whole h hne => exact h.isSolid
  | point h hplaces hne => exact h.isSolid.append (hplaces.isSolid.cons (by decide))

/-- A power has no blanks in it. -/
lemma SpellsPower.isSolid {t : Text} {power : Int} (h : SpellsPower SpellsDigits t power) : IsSolid t := by
  cases h with
  | one => exact isSolid_nil
  | tenTo he hsign h hne =>
    refine ((isSolid_sign hsign).append h.isSolid).cons ?_
    rcases he with rfl | rfl <;> decide

/-- What spells a number has no blank in it. -/
lemma Spells.isSolid {t : Text} {x : Binary64} (h : Spells SpellsDigits t x) : IsSolid t := by
  cases h with
  | infinite hsign hword => exact (isSolid_sign hsign).append (isSolid_word (List.mem_cons_of_mem _ hword))
  | nan hsign hword => exact (isSolid_sign hsign).append (isSolid_word (hword ▸ List.mem_cons_self))
  | decimal hsign hdecimal hpower => exact (isSolid_sign hsign).append (hdecimal.isSolid.append hpower.isSolid)

end Counterpart.Number
