import Counterpart.Proofs.Number.Grammar

/-!
# Plain numerals

Before a numeral is read its digits are written in ASCII and its underscores are dropped.

* `plain?`: the plain text of a text;
* `plain?_append`, `plain?_digits` and the lemmas back from these: which part of a text becomes which part of the plain
  text;
* `spells_iff`: a text spells what its plain text spells.
-/

namespace Counterpart.Number

open Json (digitsText)

/-! ## Characters -/

/-- A digit written in ASCII, any other character as it is. -/
def plainChar (c : Char) : Char := ((Text.decimalValue? c).map Nat.digitChar).getD c

lemma asciiDigits_cons (c : Char) (t : Text) : asciiDigits (c :: t) = plainChar c :: asciiDigits t := rfl

lemma digitsText_cons (d : Nat) (digits : List Nat) : digitsText (d :: digits) = Nat.digitChar d :: digitsText digits :=
  rfl

/-- A digit of any script becomes the ASCII one. -/
lemma plainChar_digit {c : Char} {d : Nat} (h : Text.decimalValue? c = some d) : plainChar c = Nat.digitChar d := by
  unfold plainChar
  rw [h]
  rfl

/-- What is no digit stays as it is. -/
lemma plainChar_other {c : Char} (h : Text.decimalValue? c = none) : plainChar c = c := by
  unfold plainChar
  rw [h]
  rfl

/-- What becomes an ASCII digit was that digit in some script. -/
lemma decimalValue?_of_plainChar {c : Char} {d : Nat} (hd : d < 10) (h : plainChar c = Nat.digitChar d) :
    Text.decimalValue? c = some d := by
  cases hvalue : Text.decimalValue? c with
  | none =>
    rw [← plainChar_other hvalue, h, decimalValue?_digitChar hd] at hvalue
    exact nomatch hvalue
  | some e =>
    rw [← decimalValue?_digitChar hd, ← h, plainChar_digit hvalue, decimalValue?_digitChar (decimalValue?_lt hvalue)]

/-- A character that is neither a digit nor an underscore. -/
def IsOther (c : Char) : Prop := Text.decimalValue? c = none ∧ c ≠ '_'

/-- What becomes a character other than a digit was that character. -/
lemma plainChar_eq_iff {a c : Char} (hc : Text.decimalValue? c = none) : plainChar a = c ↔ a = c := by
  constructor
  · rintro rfl
    cases hvalue : Text.decimalValue? a with
    | none => exact (plainChar_other hvalue).symm
    | some d =>
      rw [plainChar_digit hvalue, decimalValue?_digitChar (decimalValue?_lt hvalue)] at hc
      exact nomatch hc
  · rintro rfl
    exact plainChar_other hc

lemma plainChar_eq_underscore_iff {a : Char} : plainChar a = '_' ↔ a = '_' :=
  plainChar_eq_iff (decimalValue?_eq_none (by decide))

/-- There are no digits and underscores in a sign. -/
lemma isOther_sign {sign : Text} {negative : Bool} (hsign : (sign, negative) ∈ signs) : ∀ c ∈ sign, IsOther c := by
  have hall : ∀ pair ∈ signs, pair.1.all (fun c => c.toNat < 0x30 ∧ c ≠ '_') = true := by decide
  intro c hc
  obtain ⟨hlow, hne⟩ := of_decide_eq_true (List.all_eq_true.mp (hall _ hsign) c hc)
  exact ⟨decimalValue?_eq_none (.inl hlow), hne⟩

lemma isOther_point : IsOther '.' := ⟨decimalValue?_eq_none (by decide), by decide⟩

/-- The letter before a power is neither a digit nor an underscore. -/
lemma isOther_power {e : Char} (he : e = 'e' ∨ e = 'E') : IsOther e := by
  rcases he with rfl | rfl <;> exact ⟨decimalValue?_eq_none (by decide), by decide⟩

/-- There are no digits and underscores in the words. -/
lemma isOther_word {word : Text} (hword : word.map Char.toLower ∈ words) : ∀ c ∈ word, IsOther c := by
  intro c hc
  obtain ⟨hlow, hhigh, hne⟩ := isLetter_of_mem_words hword c hc
  exact ⟨decimalValue?_eq_none (.inr ⟨by omega, by omega⟩), hne⟩

/-! ## Underscores -/

lemma ne_underscore_of_isDigit {c : Char} (h : c.isDigit = true) : c ≠ '_' := by
  rintro rfl
  exact nomatch h

/-- An underscore has to stand behind a digit. -/
lemma dropUnderscores_underscore (previous : Option Char) (t : Text) :
    dropUnderscores previous ('_' :: t) = if previous.any (·.isDigit) then dropUnderscores (some '_') t else none := by
  rw [dropUnderscores, if_pos rfl]

/-- Behind an underscore there has to stand a digit. -/
lemma dropUnderscores_cons {previous : Option Char} {c : Char} (hc : c ≠ '_')
    (hprevious : previous = some '_' → c.isDigit = true) (t : Text) :
    dropUnderscores previous (c :: t) = (dropUnderscores (some c) t).map (c :: ·) := by
  rw [dropUnderscores, if_neg hc, if_neg fun h => h.2 (hprevious h.1)]

/-- Any character but an underscore is kept, and behind an underscore it is a digit. -/
lemma exists_of_dropUnderscores_cons {previous : Option Char} {c : Char} {t p : Text} (hc : c ≠ '_')
    (h : dropUnderscores previous (c :: t) = some p) :
    (previous = some '_' → c.isDigit = true) ∧ ∃ q, p = c :: q ∧ dropUnderscores (some c) t = some q := by
  rw [dropUnderscores, if_neg hc] at h
  split at h
  · exact nomatch h
  · next hnot =>
    obtain ⟨q, hq, rfl⟩ := Option.map_eq_some_iff.mp h
    exact ⟨fun hprevious => not_not.mp fun hdigit => hnot ⟨hprevious, hdigit⟩, q, rfl, hq⟩

/-- Behind an underscore stands a digit. -/
lemma exists_of_dropUnderscores_underscore {t p : Text} (h : dropUnderscores (some '_') t = some p) :
    ∃ c rest q, t = c :: rest ∧ c.isDigit = true ∧ p = c :: q := by
  cases t with
  | nil => exact nomatch h
  | cons c rest =>
    by_cases hc : c = '_'
    · rw [hc, dropUnderscores_underscore, if_neg (by decide)] at h
      exact nomatch h
    · obtain ⟨hdigit, q, rfl, -⟩ := exists_of_dropUnderscores_cons hc h
      exact ⟨c, rest, q, rfl, hdigit rfl, rfl⟩

/-- What comes before matters only if it is a digit or an underscore, and to a digit or an underscore. -/
lemma dropUnderscores_congr {previous : Option Char} {t : Text} (hprevious : previous ≠ some '_')
    (ht : previous.any (·.isDigit) = true → t.head? ≠ some '_') :
    dropUnderscores previous t = dropUnderscores none t := by
  cases t with
  | nil => rw [dropUnderscores, dropUnderscores, if_neg hprevious, if_neg (by simp)]
  | cons c t =>
    by_cases hc : c = '_'
    · rw [hc, dropUnderscores_underscore, dropUnderscores_underscore, if_neg fun h => ht h (congrArg some hc),
        if_neg (by simp)]
    · rw [dropUnderscores_cons hc fun h => absurd h hprevious, dropUnderscores_cons hc (by simp)]

/-! ## Plain texts -/

/-- A text in ASCII digits and without underscores, if they stand where they may. -/
def plain? (t : Text) : Option Text := dropUnderscores none (asciiDigits t)

lemma plain?_nil : plain? [] = some [] := rfl

/-- No numeral begins with an underscore. -/
lemma head?_ne_of_plain? {t p : Text} (h : plain? t = some p) : t.head? ≠ some '_' := by
  intro hc
  obtain ⟨rest, rfl⟩ := List.head?_eq_some_iff.mp hc
  unfold plain? at h
  rw [asciiDigits_cons, plainChar_eq_underscore_iff.mpr rfl, dropUnderscores_underscore, if_neg (by simp)] at h
  exact nomatch h

/-- Only the empty text has the empty plain form. -/
lemma eq_nil_of_plain? {t : Text} (h : plain? t = some []) : t = [] := by
  cases t with
  | nil => rfl
  | cons c t =>
    have hc : plainChar c ≠ '_' := fun hc =>
      head?_ne_of_plain? h (congrArg some (plainChar_eq_underscore_iff.mp hc))
    obtain ⟨-, q, hq, -⟩ := exists_of_dropUnderscores_cons hc h
    exact nomatch hq

lemma head?_asciiDigits {t : Text} : (asciiDigits t).head? = some '_' ↔ t.head? = some '_' := by
  cases t with
  | nil => simp [asciiDigits]
  | cons c t => simp [asciiDigits_cons, plainChar_eq_underscore_iff]

/-! ### Other characters -/

/-- A character that is neither a digit nor an underscore is kept. -/
lemma plain?_cons {c : Char} (h : IsOther c) (t : Text) : plain? (c :: t) = (plain? t).map (c :: ·) := by
  have hdigit : c.isDigit = false := not_isDigit_of_decimalValue? h.1
  unfold plain?
  rw [asciiDigits_cons, plainChar_other h.1, dropUnderscores_cons h.2 (by simp),
    dropUnderscores_congr (by simpa using h.2) (by simp [hdigit])]

/-- Characters that are neither digits nor underscores are kept. -/
lemma plain?_append {w : Text} (h : ∀ c ∈ w, IsOther c) (t : Text) : plain? (w ++ t) = (plain? t).map (w ++ ·) := by
  induction w with
  | nil => simp
  | cons c w ih =>
    rw [List.cons_append, plain?_cons (h c List.mem_cons_self), ih fun c hc => h c (List.mem_cons_of_mem _ hc),
      Option.map_map]
    rfl

/-- Where the plain form begins with such a character, so does the text. -/
lemma exists_of_plain?_cons {t p : Text} {c : Char} (hc : IsOther c) (h : plain? t = some (c :: p)) :
    ∃ rest, t = c :: rest ∧ plain? rest = some p := by
  cases t with
  | nil => exact nomatch h
  | cons a rest =>
    have ha : plainChar a ≠ '_' := fun ha =>
      head?_ne_of_plain? h (congrArg some (plainChar_eq_underscore_iff.mp ha))
    obtain ⟨-, q, hq, -⟩ := exists_of_dropUnderscores_cons ha h
    obtain rfl := (plainChar_eq_iff hc.1).mp (List.cons.inj hq).1.symm
    rw [plain?_cons hc] at h
    obtain ⟨q, hrest, hp⟩ := Option.map_eq_some_iff.mp h
    obtain rfl := (List.cons.inj hp).2
    exact ⟨rest, rfl, hrest⟩

/-- Where the plain form begins with such characters, so does the text. -/
lemma exists_of_plain?_append {w t p : Text} (hw : ∀ c ∈ w, IsOther c) (h : plain? t = some (w ++ p)) :
    ∃ rest, t = w ++ rest ∧ plain? rest = some p := by
  induction w generalizing t with
  | nil => exact ⟨t, rfl, h⟩
  | cons c w ih =>
    obtain ⟨rest, rfl, hrest⟩ := exists_of_plain?_cons (hw c List.mem_cons_self) h
    obtain ⟨last, rfl, hlast⟩ := ih (fun c hc => hw c (List.mem_cons_of_mem _ hc)) hrest
    exact ⟨last, rfl, hlast⟩

/-! ### Digits -/

/-- Digits become their values, behind whatever they come: only an underscore must not be the last before them. -/
lemma dropUnderscores_digits {w t : Text} {digits : List Nat} (hw : SpellsDigits w digits) (ht : t.head? ≠ some '_')
    {previous : Option Char} (hprevious : previous = some '_' → digits ≠ []) :
    dropUnderscores previous (asciiDigits (w ++ t)) = (plain? t).map (digitsText digits ++ ·) := by
  induction hw generalizing previous with
  | nil =>
    rw [List.nil_append, dropUnderscores_congr (fun h => hprevious h rfl) fun _ => mt head?_asciiDigits.mp ht]
    simp [digitsText, plain?]
  | @digit c w d digits h hrest ih =>
    have hd := (Json.digitChar_spec (decimalValue?_lt h)).1
    have hne := ne_underscore_of_isDigit hd
    rw [List.cons_append, asciiDigits_cons, plainChar_digit h, dropUnderscores_cons hne fun _ => hd,
      ih fun heq => absurd (Option.some.inj heq) hne, Option.map_map]
    rfl
  | @underscore c w d digits h hrest hne ih =>
    have hd := (Json.digitChar_spec (decimalValue?_lt h)).1
    rw [List.cons_append, List.cons_append, asciiDigits_cons, asciiDigits_cons, plainChar_digit h,
      plainChar_eq_underscore_iff.mpr rfl, dropUnderscores_cons (ne_underscore_of_isDigit hd) fun _ => hd,
      dropUnderscores_underscore, if_pos (by simpa using hd), ih fun _ => hne, Option.map_map]
    rfl

/-- Digits in a text become the ASCII digits of their values. -/
lemma plain?_digits {w t : Text} {digits : List Nat} (hw : SpellsDigits w digits) (ht : t.head? ≠ some '_') :
    plain? (w ++ t) = (plain? t).map (digitsText digits ++ ·) :=
  dropUnderscores_digits hw ht (by simp)

/-- Where the plain form begins with digits, the text begins with a spelling of them. -/
lemma exists_of_dropUnderscores_digits {digits : List Nat} {t p : Text} (h : ∀ d ∈ digits, d < 10)
    (hp : EndsDigits p) {previous : Option Char} (ht : t.head? ≠ some '_')
    (hprevious : previous = some '_' → digits ≠ [])
    (hplain : dropUnderscores previous (asciiDigits t) = some (digitsText digits ++ p)) :
    ∃ w rest, t = w ++ rest ∧ SpellsDigits w digits ∧ plain? rest = some p := by
  induction digits generalizing previous t with
  | nil =>
    rw [dropUnderscores_congr (fun h => hprevious h rfl) fun _ => mt head?_asciiDigits.mp ht] at hplain
    exact ⟨[], t, rfl, .nil, hplain⟩
  | cons d digits ih =>
    have hd : d < 10 := h d List.mem_cons_self
    have hdigit := (Json.digitChar_spec hd).1
    have hdigits : ∀ d ∈ digits, d < 10 := fun d hd => h d (List.mem_cons_of_mem _ hd)
    cases t with
    | nil =>
      rw [asciiDigits, List.map_nil, dropUnderscores] at hplain
      split at hplain <;> simp [digitsText] at hplain
    | cons c t =>
      rw [asciiDigits_cons, digitsText_cons, List.cons_append] at hplain
      have hc : plainChar c ≠ '_' := fun hc => ht (congrArg some (plainChar_eq_underscore_iff.mp hc))
      obtain ⟨-, q, hq, hrest⟩ := exists_of_dropUnderscores_cons hc hplain
      obtain ⟨hchar, rfl⟩ := List.cons.inj hq
      have hvalue := decimalValue?_of_plainChar hd hchar.symm
      rw [← hchar] at hrest
      by_cases hunderscore : t.head? = some '_'
      · -- then a digit follows the underscore, and it is one of the digits
        obtain ⟨t, rfl⟩ := List.head?_eq_some_iff.mp hunderscore
        rw [asciiDigits_cons, plainChar_eq_underscore_iff.mpr rfl, dropUnderscores_underscore,
          if_pos (by simpa using hdigit)] at hrest
        obtain ⟨a, last, q, ht, ha, hq⟩ := exists_of_dropUnderscores_underscore hrest
        have hne : digits ≠ [] := by
          rintro rfl
          exact absurd ((hp a (congrArg List.head? hq)).symm.trans ha) Bool.false_ne_true
        have hhead : t.head? ≠ some '_' := by
          rw [ne_eq, ← head?_asciiDigits, ht]
          exact fun heq => ne_underscore_of_isDigit ha (Option.some.inj heq)
        obtain ⟨w, rest, rfl, hw, hlast⟩ := ih hdigits hhead (fun _ => hne) hrest
        exact ⟨c :: '_' :: w, rest, rfl, .underscore hvalue hw hne, hlast⟩
      · have hprevious : some (Nat.digitChar d) = some '_' → digits ≠ [] :=
          fun heq => absurd (Option.some.inj heq) (ne_underscore_of_isDigit hdigit)
        obtain ⟨w, rest, rfl, hw, hlast⟩ := ih hdigits hunderscore hprevious hrest
        exact ⟨c :: w, rest, rfl, .digit hvalue hw, hlast⟩

/-- Where the plain form of a whole text begins with digits, the text begins with a spelling of them. -/
lemma exists_of_plain?_digits {digits : List Nat} {t p : Text} (h : ∀ d ∈ digits, d < 10)
    (hp : EndsDigits p) (hplain : plain? t = some (digitsText digits ++ p)) :
    ∃ w rest, t = w ++ rest ∧ SpellsDigits w digits ∧ plain? rest = some p :=
  exists_of_dropUnderscores_digits h hp (head?_ne_of_plain? hplain) (by simp) hplain

/-! ## What plain texts spell -/

/-- A word stands in a plain text as it is. -/
lemma plain?_eq_word_iff {sign word t : Text} {negative : Bool} (hsign : (sign, negative) ∈ signs)
    (hword : word.map Char.toLower ∈ words) : plain? t = some (sign ++ word) ↔ t = sign ++ word := by
  have hother : ∀ c ∈ sign ++ word, IsOther c := List.forall_mem_append.mpr ⟨isOther_sign hsign, isOther_word hword⟩
  rw [← List.append_nil (sign ++ word)]
  constructor
  · intro h
    obtain ⟨rest, rfl, hrest⟩ := exists_of_plain?_append hother h
    rw [eq_nil_of_plain? hrest]
  · rintro rfl
    rw [plain?_append hother, plain?_nil]
    rfl

/-- The powers of ten, with the digits of any script and in plain texts. -/
lemma spellsPower_iff {t : Text} {power : Int} :
    SpellsPower SpellsDigits t power ↔ ∃ p, plain? t = some p ∧ SpellsPower IsPlainDigits p power := by
  constructor
  · intro h
    cases h with
    | one => exact ⟨[], plain?_nil, .one⟩
    | @tenTo e sign t negative digits he hsign h hne =>
      have hdigits : plain? (t ++ []) = _ := plain?_digits h (by simp)
      rw [List.append_nil, plain?_nil, Option.map_some, List.append_nil] at hdigits
      refine ⟨e :: (sign ++ digitsText digits), ?_, .tenTo he hsign ⟨rfl, h.lt⟩ hne⟩
      rw [plain?_cons (isOther_power he), plain?_append (isOther_sign hsign), hdigits]
      rfl
  · rintro ⟨p, hplain, h⟩
    cases h with
    | one =>
      obtain rfl := eq_nil_of_plain? hplain
      exact .one
    | @tenTo e sign t negative digits he hsign h hne =>
      obtain ⟨rfl, hsmall⟩ := h
      obtain ⟨power, rfl, hpower⟩ := exists_of_plain?_cons (isOther_power he) hplain
      obtain ⟨rest, rfl, hrest⟩ := exists_of_plain?_append (isOther_sign hsign) hpower
      rw [← List.append_nil (digitsText digits)] at hrest
      obtain ⟨w, last, rfl, hw, hlast⟩ := exists_of_plain?_digits hsmall endsDigits_nil hrest
      rw [eq_nil_of_plain? hlast, List.append_nil]
      exact .tenTo he hsign hw hne

/-- The digits before and behind the point, of any script and in plain texts. -/
lemma exists_plain?_decimal {t u : Text} {whole places : List Nat} (h : SpellsDecimal SpellsDigits t whole places)
    (hu : u.head? ≠ some '_') :
    ∃ p, plain? (t ++ u) = (plain? u).map (p ++ ·) ∧ SpellsDecimal IsPlainDigits p whole places := by
  cases h with
  | whole h hne => exact ⟨digitsText whole, plain?_digits h hu, .whole ⟨rfl, h.lt⟩ hne⟩
  | point h hplaces hne =>
    refine ⟨digitsText whole ++ '.' :: digitsText places, ?_, .point ⟨rfl, h.lt⟩ ⟨rfl, hplaces.lt⟩ hne⟩
    rw [List.append_assoc, List.cons_append, plain?_digits h (by simp), plain?_cons isOther_point,
      plain?_digits hplaces hu, Option.map_map, Option.map_map]
    congr 1
    funext p
    simp

/-- Where the plain form begins with digits and a point, so does the text, in some spelling. -/
lemma exists_of_plain?_decimal {t p u : Text} {whole places : List Nat} (h : SpellsDecimal IsPlainDigits p whole places)
    (hu : EndsDigits u) (hplain : plain? t = some (p ++ u)) :
    ∃ w rest, t = w ++ rest ∧ SpellsDecimal SpellsDigits w whole places ∧ plain? rest = some u := by
  cases h with
  | whole h hne =>
    obtain ⟨rfl, hsmall⟩ := h
    obtain ⟨w, rest, rfl, hw, hrest⟩ := exists_of_plain?_digits hsmall hu hplain
    exact ⟨w, rest, rfl, .whole hw hne, hrest⟩
  | point h hplaces hne =>
    obtain ⟨rfl, hsmall⟩ := h
    obtain ⟨rfl, hsmallPlaces⟩ := hplaces
    rw [List.append_assoc, List.cons_append] at hplain
    obtain ⟨w, point, rfl, hw, hpoint⟩ := exists_of_plain?_digits hsmall (endsDigits_cons rfl _) hplain
    obtain ⟨behind, rfl, hbehind⟩ := exists_of_plain?_cons isOther_point hpoint
    obtain ⟨v, rest, rfl, hv, hrest⟩ := exists_of_plain?_digits hsmallPlaces hu hbehind
    exact ⟨w ++ '.' :: v, rest, by simp, .point hw hv hne, hrest⟩

/-- A text spells a number, with the digits of any script, if its plain text spells it. -/
theorem spells_iff {t : Text} {x : Binary64} :
    Spells SpellsDigits t x ↔ ∃ p, plain? t = some p ∧ Spells IsPlainDigits p x := by
  constructor
  · intro h
    cases h with
    | infinite hsign hword =>
      exact ⟨_, (plain?_eq_word_iff hsign (List.mem_cons_of_mem _ hword)).mpr rfl, .infinite hsign hword⟩
    | nan hsign hword =>
      exact ⟨_, (plain?_eq_word_iff hsign (hword ▸ List.mem_cons_self)).mpr rfl, .nan hsign hword⟩
    | decimal hsign hdecimal hpower =>
      have hhead : ∀ c, _ = some c → c ≠ '_' := fun c hc => by rcases hpower.head hc with rfl | rfl <;> decide
      obtain ⟨q, hq, hplainPower⟩ := spellsPower_iff.mp hpower
      obtain ⟨p, hp, hplainDecimal⟩ := exists_plain?_decimal hdecimal fun hc => hhead _ hc rfl
      refine ⟨_, ?_, .decimal hsign hplainDecimal hplainPower⟩
      rw [plain?_append (isOther_sign hsign), hp, hq]
      rfl
  · rintro ⟨p, hplain, h⟩
    cases h with
    | infinite hsign hword =>
      rw [(plain?_eq_word_iff hsign (List.mem_cons_of_mem _ hword)).mp hplain]
      exact .infinite hsign hword
    | nan hsign hword =>
      rw [(plain?_eq_word_iff hsign (hword ▸ List.mem_cons_self)).mp hplain]
      exact .nan hsign hword
    | decimal hsign hdecimal hpower =>
      obtain ⟨rest, rfl, hrest⟩ := exists_of_plain?_append (isOther_sign hsign) hplain
      obtain ⟨w, last, rfl, hw, hlast⟩ := exists_of_plain?_decimal hdecimal hpower.endsDigits hrest
      exact .decimal hsign hw (spellsPower_iff.mpr ⟨_, hlast, hpower⟩)

end Counterpart.Number
