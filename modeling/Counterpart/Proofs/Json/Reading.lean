import Counterpart.Json.Encoding
import Counterpart.Proofs.Number.Leading
import Counterpart.Proofs.Text.Utf8
import Mathlib.Data.List.TakeWhile
import Mathlib.Tactic.IntervalCases

/-!
# Reading what the grammar derives

Every text of the grammar is read as the value that it spells, and so are the bytes of an object.

* `stringAfter_chars` and `readValue_number`: strings and numbers;
* `IsRead`: what reading does with a part of a text, and `Spells.isRead`: that it does so with all that the grammar
  derives;
* `Spells.read_eq` and `Spells.ofBytes_eq`: a text, and the bytes of an object, are read as the value they spell.
-/

namespace Counterpart.Json

/-! ## Blanks -/

/-- Blanks in front are skipped. -/
lemma skipBlanks_append {blanks : Text} (h : IsBlanks blanks) (t : Text) : skipBlanks (blanks ++ t) = skipBlanks t := by
  unfold skipBlanks
  refine List.dropWhile_append_of_pos fun c hc => ?_
  rcases h c hc with rfl | rfl | rfl | rfl <;> rfl

/-- Before any other character nothing is skipped. -/
lemma skipBlanks_cons {c : Char} (h : isJsonBlank c = false) (t : Text) : skipBlanks (c :: t) = c :: t :=
  List.dropWhile_cons_of_neg (by simp [h])

lemma skipBlanks_of_isBlanks {blanks : Text} (h : IsBlanks blanks) : skipBlanks blanks = [] := by
  have happend := skipBlanks_append h []
  rwa [List.append_nil] at happend

/-! ## Strings -/

/-- Four digits of an escape are read as their number. -/
lemma exists_fourHex {digits : Text} {n : Nat} (h : IsFourHex digits n) :
    ∃ a b c d, digits = [a, b, c, d] ∧ fourHex? a b c d = some n := by
  obtain ⟨ha, hb, hc, hd⟩ := h
  refine ⟨_, _, _, _, rfl, ?_⟩
  unfold fourHex?
  rw [hexDigit?_eq ha, hexDigit?_eq hb, hexDigit?_eq hc, hexDigit?_eq hd]
  rfl

/-- A short escape is read as its character, and none of them begins with a `u`. -/
lemma escape?_eq {e c : Char} (h : (e, c) ∈ shortEscapes) : escape? e = some c ∧ e ≠ 'u' := by
  have hall : ∀ pair ∈ shortEscapes, escape? pair.1 = some pair.2 ∧ pair.1 ≠ 'u' := by decide
  exact hall (e, c) h

/-- A spelled character is read as it. -/
lemma stringAfter_char {t : Text} {c : Char} (h : SpellsChar t c) (done rest : Text) :
    stringAfter none done (t ++ rest) = stringAfter none (c :: done) rest := by
  cases h with
  | plain hquote hbackslash hcontrol =>
    rw [List.singleton_append, stringAfter]
    · simp [hquote, hbackslash, Nat.not_lt.mpr hcontrol]
    · exact fun _ _ _ _ _ hc => absurd hc hbackslash
    · exact fun _ _ hc => absurd hc hbackslash
  | short h =>
    obtain ⟨hescape, hu⟩ := escape?_eq h
    rw [List.cons_append, List.cons_append, stringAfter]
    · simp [hescape]
    · exact fun _ _ _ _ _ he => absurd he hu
  | unicode h =>
    obtain ⟨a, b, d, e, rfl, hhex⟩ := exists_fourHex h
    have hsurrogate : isHighSurrogate c.toNat = Bool.false := by
      have hvalid : c.toNat < 0xD800 ∨ 0xDFFF < c.toNat ∧ c.toNat < 0x110000 := c.valid
      unfold isHighSurrogate
      simp
      omega
    simp only [List.cons_append, List.nil_append]
    rw [stringAfter, hhex]
    simp only [hsurrogate]
    rw [show Text.Utf8.scalar c.toNat = c from Text.Utf8.scalar_val c]
    rfl
  | @pair _ _ high low _ hfirst hsecond hhigh hlow hc =>
    obtain ⟨a, b, d, e, rfl, hhex⟩ := exists_fourHex hfirst
    obtain ⟨a', b', d', e', rfl, hhex'⟩ := exists_fourHex hsecond
    have hhighSurrogate : isHighSurrogate high = Bool.true := by
      simpa [isHighSurrogate] using hhigh
    have hlowSurrogate : isLowSurrogate low = Bool.true := by
      simpa [isLowSurrogate] using hlow
    have hpoint : joinSurrogates high low = c.toNat := hc.symm
    have hjoined : Text.Utf8.scalar (joinSurrogates high low) = c := by
      rw [hpoint]
      exact Text.Utf8.scalar_val c
    simp only [List.cons_append, List.nil_append]
    rw [stringAfter, hhex]
    simp only [hhighSurrogate, if_true]
    rw [stringAfter, hhex']
    simp only [hlowSurrogate, if_true, hjoined]

/-- The characters of a string are read up to the quote that ends it. -/
lemma stringAfter_chars {t s : Text} (h : SpellsChars t s) (done rest : Text) :
    stringAfter none done (t ++ '"' :: rest) = some (done.reverse ++ s, rest) := by
  induction h generalizing done with
  | nil => simp [stringAfter]
  | cons hc hrest ih =>
    rw [List.append_assoc, stringAfter_char hc, ih]
    simp

/-! ## Numbers -/

/-- Nothing that follows would belong to a number. -/
def EndsNumber (rest : Text) : Prop :=
  ∀ c, rest.head? = some c → c.isDigit = Bool.false ∧ c ≠ '.' ∧ c ≠ 'e' ∧ c ≠ 'E'

/-- The places behind a point are read up to what cannot belong to them. -/
lemma fraction_append {t rest : Text} {places : List Nat} (h : SpellsPlaces t places)
    (hrest : ∀ c, rest.head? = some c → c.isDigit = Bool.false ∧ c ≠ '.') :
    fraction (t ++ rest) = (places, rest) := by
  cases h with
  | none =>
    rw [List.nil_append]
    unfold fraction
    split
    · exact absurd rfl (hrest '.' rfl).2
    · rfl
  | some h =>
    have hdigits := Number.leadingDigits_append h fun c hc => (hrest c hc).1
    rw [List.cons_append]
    unfold fraction
    simp [hdigits]

/-- A power is read up to what cannot belong to the number. -/
lemma exponent_append {t rest : Text} {power : Option Int} (h : SpellsPower t power) (hrest : EndsNumber rest) :
    exponent (t ++ rest) = (power, rest) := by
  cases h with
  | none =>
    rw [List.nil_append]
    unfold exponent
    split
    · next c after =>
      obtain ⟨-, -, he, hE⟩ := hrest c rfl
      rw [if_neg (by simp [he, hE])]
    · rfl
  | @some e sign negative d digits he hsign h =>
    have hleading : Number.leadingSign (sign ++ (digitsText (d :: digits) ++ rest)) =
        (negative, digitsText (d :: digits) ++ rest) := by
      refine Number.leadingSign_append hsign fun c hc => ?_
      obtain rfl := Option.some.inj hc
      exact Number.ne_sign_of_isDigit (digitChar_spec (h d List.mem_cons_self)).1
    rw [List.cons_append, List.cons_append, List.append_assoc]
    unfold exponent
    dsimp only
    rw [if_pos he, hleading]
    dsimp only
    rw [Number.leadingDigits_append h fun c hc => (hrest c hc).1]
    rfl

/-- The digits before the point. -/
lemma whole_append {rest : Text} {whole : List Nat} (hwhole : IsWhole whole) (h : ∀ d ∈ whole, d < 10)
    (hrest : ∀ c, rest.head? = some c → c.isDigit = Bool.false) :
    (match digitsText whole ++ rest with
      | '0' :: after => ([0], after)
      | _ => Number.leadingDigits (digitsText whole ++ rest)) = (whole, rest) := by
  rcases hwhole with rfl | ⟨d, digits, rfl, hd⟩
  · rfl
  · have hfirst : Nat.digitChar d ≠ '0' := by
      have hall : ∀ d < 10, d ≠ 0 → Nat.digitChar d ≠ '0' := by decide
      exact hall d (h d List.mem_cons_self) hd
    split
    · next hzero => exact absurd (List.cons.inj hzero).1 hfirst
    · exact Number.leadingDigits_append h hrest

/-- A number behind its sign: its digits, its places and its exponent. -/
lemma number?_append (negative : Bool) {whole places : List Nat} {placesText powerText rest : Text}
    {power : Option Int} (hwhole : IsWhole whole) (h : ∀ d ∈ whole, d < 10) (hplaces : SpellsPlaces placesText places)
    (hpower : SpellsPower powerText power) (hrest : EndsNumber rest) :
    number? negative (digitsText whole ++ (placesText ++ (powerText ++ rest))) =
      if places.isEmpty ∧ power.isNone then
        if greatestIntegerDigits < whole.length then none else some (.int (signed negative (decimal whole)), rest)
      else some (.float (.ofDecimal negative (whole ++ places) (power.getD 0 - places.length)), rest) := by
  have hne : whole.isEmpty = Bool.false := by
    rcases hwhole with rfl | ⟨d, digits, rfl, -⟩ <;> rfl
  -- neither what follows the digits nor what follows the places begins with a digit
  have hafterPlaces : ∀ c, (powerText ++ rest).head? = some c → c.isDigit = Bool.false ∧ c ≠ '.' := by
    intro c hc
    cases hpower with
    | none => exact ⟨(hrest c hc).1, (hrest c hc).2.1⟩
    | some he =>
      obtain rfl := Option.some.inj hc
      rcases he with rfl | rfl <;> decide
  have hafterWhole : ∀ c, (placesText ++ (powerText ++ rest)).head? = some c → c.isDigit = Bool.false := by
    intro c hc
    cases hplaces with
    | none => exact (hafterPlaces c hc).1
    | some =>
      obtain rfl := Option.some.inj hc
      decide
  unfold number?
  split
  next whole' rest' heq =>
  obtain ⟨rfl, rfl⟩ := Prod.mk.inj (heq.symm.trans (whole_append hwhole h hafterWhole))
  rw [hne, if_neg Bool.false_ne_true, fraction_append hplaces hafterPlaces]
  dsimp only
  rw [exponent_append hpower hrest]
  rfl

/-- A minus before a digit is not the one of an infinity. -/
lemma word?_minus {d : Nat} (h : d < 10) (rest : Text) : word? ('-' :: Nat.digitChar d :: rest) = none := by
  interval_cases d <;> rfl

/-- No word begins with a digit. -/
lemma word?_digit {d : Nat} (h : d < 10) (rest : Text) : word? (Nat.digitChar d :: rest) = none := by
  interval_cases d <;> rfl

/-- At a quote a string is read. -/
lemma readValue_string (fuel room : Nat) (rest : Text) :
    readValue (fuel + 1) room ('"' :: rest)
      = orMalformed ((stringAfter none [] rest).map fun (t, rest) => (.string t, rest)) := by
  cases room <;> rw [readValue, if_pos rfl]

/-- What opens no string and no container is read as a word or as a number, however deep it stands. -/
lemma readValue_scalar {c : Char} (hquote : c ≠ '"') (hbracket : c ≠ '[') (hbrace : c ≠ '\x7b')
    (fuel room : Nat) (rest : Text) :
    readValue (fuel + 1) room (c :: rest) =
      match word? (c :: rest) with
      | some found => .ok found
      | none => orMalformed (if c = '-' then number? true rest else number? false (c :: rest)) := by
  cases room <;> rw [readValue, if_neg hquote, if_neg hbracket, if_neg hbrace] <;> rfl

/-- At a digit or a sign before one a number is read. -/
lemma readValue_signed {negative : Bool} {d : Nat} (h : d < 10) (digits : List Nat) (rest : Text) (fuel room : Nat) :
    readValue (fuel + 1) room ((if negative then ['-'] else []) ++ (digitsText (d :: digits) ++ rest))
      = orMalformed (number? negative (digitsText (d :: digits) ++ rest)) := by
  have hchar : Nat.digitChar d ≠ '"' ∧ Nat.digitChar d ≠ '[' ∧ Nat.digitChar d ≠ '\x7b' ∧ Nat.digitChar d ≠ '-' := by
    have hall : ∀ d < 10, Nat.digitChar d ≠ '"' ∧ Nat.digitChar d ≠ '[' ∧ Nat.digitChar d ≠ '\x7b' ∧
        Nat.digitChar d ≠ '-' := by decide
    exact hall d h
  obtain ⟨hquote, hbracket, hbrace, hminus⟩ := hchar
  cases negative with
  | true =>
    show readValue (fuel + 1) room ('-' :: Nat.digitChar d :: (digitsText digits ++ rest)) = _
    rw [readValue_scalar (by decide) (by decide) (by decide), word?_minus h]
    rfl
  | false =>
    show readValue (fuel + 1) room (Nat.digitChar d :: (digitsText digits ++ rest)) = _
    rw [readValue_scalar hquote hbracket hbrace, word?_digit h]
    dsimp only
    rw [if_neg hminus]
    rfl

/-- A spelled number is read as it. -/
lemma readValue_number {t rest : Text} {v : Json} (h : SpellsNumber t v) (hrest : EndsNumber rest)
    (fuel room : Nat) : readValue (fuel + 1) room (t ++ rest) = .ok (v, rest) := by
  cases h with
  | @int negative whole hwhole h hlength =>
    obtain ⟨d, digits, rfl⟩ := hwhole.exists_cons
    have hnumber := number?_append negative hwhole h .none .none hrest
    rw [if_pos ⟨rfl, rfl⟩, if_neg (Nat.not_lt.mpr hlength)] at hnumber
    rw [List.append_assoc, readValue_signed (h d List.mem_cons_self)]
    exact congrArg orMalformed hnumber
  | @float negative whole places placesText powerText power hwhole h hplaces hpower hsome =>
    obtain ⟨d, digits, rfl⟩ := hwhole.exists_cons
    have hnumber := number?_append negative hwhole h hplaces hpower hrest
    rw [if_neg (by simpa [List.isEmpty_iff, Option.isNone_iff_eq_none, Classical.or_iff_not_imp_left] using hsome)]
      at hnumber
    simp only [List.append_assoc]
    rw [readValue_signed (h d List.mem_cons_self)]
    exact congrArg orMalformed hnumber

/-! ## Parts of a text -/

/-- What begins a value is no blank. -/
lemma Begins.skipBlanks_eq {t : Text} (h : Begins t) (rest : Text) : skipBlanks (t ++ rest) = t ++ rest := by
  obtain ⟨c, t, rfl, hblank, -⟩ := h
  exact skipBlanks_cons hblank (t ++ rest)

/-- What reading does with a part of a text, where `n` levels may still be entered. -/
def IsRead (n : Nat) (t : Text) : Part → Prop
  | .value v => Begins t ∧ ∀ fuel rest, 2 * t.length ≤ fuel → EndsNumber rest →
      readValue fuel n (t ++ rest) = .ok (v, rest)
  | .items vs => Begins t ∧ ∀ fuel done rest, 2 * t.length + 1 ≤ fuel →
      readItems fuel n done (t ++ ']' :: rest) = .ok (.array (done.reverse ++ vs), rest)
  | .member name v => Begins t ∧ ∀ fuel done rest more, 2 * t.length ≤ fuel → EndsNumber rest →
      (skipBlanks rest = '\x7d' :: more →
        readMembers (fuel + 1) n done (t ++ rest) = .ok (.object (setMember name v done), more)) ∧
      (skipBlanks rest = ',' :: more →
        readMembers (fuel + 1) n done (t ++ rest) = readMembers fuel n (setMember name v done) (skipBlanks more))
  | .members ms => Begins t ∧ ∀ fuel done rest, 2 * t.length + 1 ≤ fuel →
      readMembers fuel n done (t ++ '\x7d' :: rest) = .ok (.object (setMembers done ms), rest)

/-- Blanks end a number. -/
lemma endsNumber_blanks {blanks rest : Text} (h : IsBlanks blanks) (hrest : EndsNumber rest) :
    EndsNumber (blanks ++ rest) := by
  cases blanks with
  | nil => exact hrest
  | cons c blanks =>
    intro d hd
    obtain rfl := Option.some.inj hd
    rcases h c List.mem_cons_self with rfl | rfl | rfl | rfl <;> decide

lemma endsNumber_nil : EndsNumber [] := fun _ h => nomatch h

/-- A comma or a closing bracket ends a number. -/
lemma endsNumber_cons {c : Char} (h : c = ',' ∨ c = ']' ∨ c = '\x7d') (rest : Text) : EndsNumber (c :: rest) := by
  intro d hd
  obtain rfl := Option.some.inj hd
  rcases h with rfl | rfl | rfl <;> decide

/-- A value in an array, and the comma or the bracket behind it. -/
lemma readItems_value {fuel n : Nat} {t rest : Text} {v : Json} (h : readValue fuel n (t ++ rest) = .ok (v, rest))
    (done : List Json) (more : Text) :
    (skipBlanks rest = ']' :: more →
        readItems (fuel + 1) n done (t ++ rest) = .ok (.array (done.reverse ++ [v]), more)) ∧
      (skipBlanks rest = ',' :: more →
        readItems (fuel + 1) n done (t ++ rest) = readItems fuel n (v :: done) (skipBlanks more)) := by
  rw [readItems, h]
  constructor
  · intro hrest
    dsimp only
    rw [hrest]
    simp
  · intro hrest
    dsimp only
    rw [hrest]
    rfl

/-- At an opening bracket items are read, with room for one level less. -/
lemma readValue_array {fuel n : Nat} {blanks t : Text} (hblanks : IsBlanks blanks) (h : Begins t) :
    readValue (fuel + 1) (n + 1) ('[' :: blanks ++ t) = readItems fuel n [] t := by
  obtain ⟨c, rest, rfl, hblank, hbracket, -⟩ := h
  rw [List.cons_append, readValue, if_neg (by decide), if_pos rfl, skipBlanks_append hblanks, skipBlanks_cons hblank]
  split
  · next hclosed => exact absurd (List.cons.inj hclosed).1 hbracket
  · rfl

/-- At an opening brace members are read, with room for one level less. -/
lemma readValue_object {fuel n : Nat} {blanks t : Text} (hblanks : IsBlanks blanks) (h : Begins t) :
    readValue (fuel + 1) (n + 1) ('\x7b' :: blanks ++ t) = readMembers fuel n [] t := by
  obtain ⟨c, rest, rfl, hblank, -, hbrace⟩ := h
  rw [List.cons_append, readValue, if_neg (by decide), if_neg (by decide), if_pos rfl, skipBlanks_append hblanks,
    skipBlanks_cons hblank]
  split
  · next hclosed => exact absurd (List.cons.inj hclosed).1 hbrace
  · rfl

namespace IsRead

variable {n : Nat}

/-- Reading a value takes a step, since the text of a value is not empty. -/
lemma value {t : Text} {v : Json} (hbegins : Begins t)
    (h : ∀ fuel rest, 2 * t.length ≤ fuel + 1 → EndsNumber rest → readValue (fuel + 1) n (t ++ rest) = .ok (v, rest)) :
    IsRead n t (.value v) := by
  refine ⟨hbegins, fun fuel rest hfuel hrest => ?_⟩
  cases fuel with
  | zero =>
    obtain ⟨c, more, rfl, -⟩ := hbegins
    simp at hfuel
  | succ fuel => exact h fuel rest hfuel hrest

/-- A text is read as items when it is so before a closing bracket. -/
lemma items {t : Text} {vs : List Json} (hbegins : Begins t)
    (h : ∀ fuel done rest, 2 * t.length ≤ fuel →
      readItems (fuel + 1) n done (t ++ ']' :: rest) = .ok (.array (done.reverse ++ vs), rest)) :
    IsRead n t (.items vs) := by
  refine ⟨hbegins, fun fuel done rest hfuel => ?_⟩
  cases fuel with
  | zero => simp at hfuel
  | succ fuel => exact h fuel done rest (Nat.le_of_succ_le_succ hfuel)

/-- A text is read as members when it is so before a closing brace. -/
lemma members {t : Text} {ms : List (Text × Json)} (hbegins : Begins t)
    (h : ∀ fuel done rest, 2 * t.length ≤ fuel →
      readMembers (fuel + 1) n done (t ++ '\x7d' :: rest) = .ok (.object (setMembers done ms), rest)) :
    IsRead n t (.members ms) := by
  refine ⟨hbegins, fun fuel done rest hfuel => ?_⟩
  cases fuel with
  | zero => simp at hfuel
  | succ fuel => exact h fuel done rest (Nat.le_of_succ_le_succ hfuel)

/-- A number is read. -/
lemma number {t : Text} {v : Json} (h : SpellsNumber t v) : IsRead n t (.value v) :=
  value (begins_number h) fun fuel _ _ hrest => readValue_number h hrest fuel n

/-- A string is read. -/
lemma string {t s : Text} (h : SpellsChars t s) : IsRead n ('"' :: t ++ ['"']) (.value (.string s)) := by
  refine value ⟨'"', _, rfl, by decide⟩ fun fuel rest _ _ => ?_
  have htext : '"' :: t ++ ['"'] ++ rest = '"' :: (t ++ '"' :: rest) := by simp
  rw [htext, readValue_string, stringAfter_chars h]
  rfl

/-- An array without items is read. -/
lemma emptyArray {blanks : Text} (h : IsBlanks blanks) :
    IsRead (n + 1) ('[' :: blanks ++ [']']) (.value (.array [])) := by
  refine value ⟨'[', _, rfl, by decide⟩ fun fuel rest _ _ => ?_
  have htext : '[' :: blanks ++ [']'] ++ rest = '[' :: (blanks ++ ']' :: rest) := by simp
  rw [htext, readValue, if_neg (by decide), if_pos rfl, skipBlanks_append h, skipBlanks_cons (by decide)]
  rfl

/-- An array is read when its items are. -/
lemma array {before t : Text} {vs : List Json} (hbefore : IsBlanks before) (h : IsRead n t (.items vs)) :
    IsRead (n + 1) ('[' :: before ++ t ++ [']']) (.value (.array vs)) := by
  obtain ⟨hbegins, hread⟩ := h
  refine value ⟨'[', _, rfl, by decide⟩ fun fuel rest hfuel _ => ?_
  have htext : '[' :: before ++ t ++ [']'] ++ rest = '[' :: before ++ (t ++ ']' :: rest) := by simp
  rw [htext, readValue_array hbefore (hbegins.append _)]
  exact hread fuel [] rest (by simp at hfuel; omega)

/-- The last item is read, with the blanks behind it. -/
lemma lastItem {t after : Text} {v : Json} (h : IsRead n t (.value v)) (hafter : IsBlanks after) :
    IsRead n (t ++ after) (.items [v]) := by
  obtain ⟨hbegins, hread⟩ := h
  refine items (hbegins.append after) fun fuel done rest hfuel => ?_
  have hvalue := hread fuel (after ++ ']' :: rest) (by simp at hfuel; omega)
    (endsNumber_blanks hafter (endsNumber_cons (by simp) rest))
  rw [List.append_assoc]
  exact (readItems_value hvalue done rest).1 (by rw [skipBlanks_append hafter, skipBlanks_cons (by decide)])

/-- An item is read that others follow. -/
lemma item {t after before more : Text} {v : Json} {vs : List Json} (h : IsRead n t (.value v))
    (hafter : IsBlanks after) (hbefore : IsBlanks before) (hmore : IsRead n more (.items vs)) :
    IsRead n (t ++ after ++ ',' :: before ++ more) (.items (v :: vs)) := by
  obtain ⟨hbegins, hread⟩ := h
  obtain ⟨hbegins', hread'⟩ := hmore
  refine items (by simpa using hbegins.append (after ++ ',' :: before ++ more)) fun fuel done rest hfuel => ?_
  have hvalue := hread fuel (after ++ ',' :: (before ++ (more ++ ']' :: rest))) (by simp at hfuel; omega)
    (endsNumber_blanks hafter (endsNumber_cons (by simp) _))
  have htext : t ++ after ++ ',' :: before ++ more ++ ']' :: rest
      = t ++ (after ++ ',' :: (before ++ (more ++ ']' :: rest))) := by simp
  rw [htext, (readItems_value hvalue done _).2 (by rw [skipBlanks_append hafter, skipBlanks_cons (by decide)]),
    skipBlanks_append hbefore, hbegins'.skipBlanks_eq, hread' fuel (v :: done) rest (by simp at hfuel; omega)]
  simp

/-- An object without members is read. -/
lemma emptyObject {blanks : Text} (h : IsBlanks blanks) :
    IsRead (n + 1) ('\x7b' :: blanks ++ ['\x7d']) (.value (.object [])) := by
  refine value ⟨'\x7b', _, rfl, by decide⟩ fun fuel rest _ _ => ?_
  have htext : '\x7b' :: blanks ++ ['\x7d'] ++ rest = '\x7b' :: (blanks ++ '\x7d' :: rest) := by simp
  rw [htext, readValue, if_neg (by decide), if_neg (by decide), if_pos rfl, skipBlanks_append h,
    skipBlanks_cons (by decide)]
  rfl

/-- An object is read when its members are, a later one in the place of an earlier one with its name. -/
lemma object {before t : Text} {ms : List (Text × Json)} (hbefore : IsBlanks before) (h : IsRead n t (.members ms)) :
    IsRead (n + 1) ('\x7b' :: before ++ t ++ ['\x7d']) (.value (.object (setMembers [] ms))) := by
  obtain ⟨hbegins, hread⟩ := h
  refine value ⟨'\x7b', _, rfl, by decide⟩ fun fuel rest hfuel _ => ?_
  have htext : '\x7b' :: before ++ t ++ ['\x7d'] ++ rest = '\x7b' :: before ++ (t ++ '\x7d' :: rest) := by simp
  rw [htext, readValue_object hbefore (hbegins.append _)]
  exact hread fuel [] rest (by simp at hfuel; omega)

/-- A name and its value are read. -/
lemma member {nameText before after t name : Text} {v : Json} (hname : SpellsChars nameText name)
    (hbefore : IsBlanks before) (hafter : IsBlanks after) (h : IsRead n t (.value v)) :
    IsRead n ('"' :: nameText ++ '"' :: before ++ ':' :: after ++ t) (.member name v) := by
  obtain ⟨hbegins, hread⟩ := h
  refine ⟨⟨'"', _, rfl, by decide⟩, fun fuel done rest more hfuel hrest => ?_⟩
  have hvalue := hread fuel rest (by simp at hfuel; omega) hrest
  have htext : '"' :: nameText ++ '"' :: before ++ ':' :: after ++ t ++ rest
      = '"' :: (nameText ++ '"' :: (before ++ ':' :: (after ++ (t ++ rest)))) := by simp
  rw [htext, readMembers, stringAfter_chars hname]
  dsimp only
  rw [skipBlanks_append hbefore, skipBlanks_cons (by decide)]
  simp only [List.reverse_nil, List.nil_append, skipBlanks_append hafter, hbegins.skipBlanks_eq, hvalue]
  constructor
  · intro hmore
    simp [hmore]
  · intro hmore
    simp [hmore]

/-- The last member is read, with the blanks behind it. -/
lemma lastMember {t after name : Text} {v : Json} (h : IsRead n t (.member name v)) (hafter : IsBlanks after) :
    IsRead n (t ++ after) (.members [(name, v)]) := by
  obtain ⟨hbegins, hread⟩ := h
  refine members (hbegins.append after) fun fuel done rest hfuel => ?_
  have hmember := hread fuel done (after ++ '\x7d' :: rest) rest (by simp at hfuel; omega)
    (endsNumber_blanks hafter (endsNumber_cons (by simp) rest))
  rw [List.append_assoc]
  exact hmember.1 (by rw [skipBlanks_append hafter, skipBlanks_cons (by decide)])

/-- A member is read that others follow. -/
lemma moreMembers {t after before more name : Text} {v : Json} {ms : List (Text × Json)}
    (h : IsRead n t (.member name v)) (hafter : IsBlanks after) (hbefore : IsBlanks before)
    (hmore : IsRead n more (.members ms)) :
    IsRead n (t ++ after ++ ',' :: before ++ more) (.members ((name, v) :: ms)) := by
  obtain ⟨hbegins, hread⟩ := h
  obtain ⟨hbegins', hread'⟩ := hmore
  refine members (by simpa using hbegins.append (after ++ ',' :: before ++ more)) fun fuel done rest hfuel => ?_
  have hmember := hread fuel done (after ++ ',' :: (before ++ (more ++ '\x7d' :: rest)))
    (before ++ (more ++ '\x7d' :: rest)) (by simp at hfuel; omega)
    (endsNumber_blanks hafter (endsNumber_cons (by simp) _))
  have htext : t ++ after ++ ',' :: before ++ more ++ '\x7d' :: rest
      = t ++ (after ++ ',' :: (before ++ (more ++ '\x7d' :: rest))) := by simp
  rw [htext, hmember.2 (by rw [skipBlanks_append hafter, skipBlanks_cons (by decide)]), skipBlanks_append hbefore,
    hbegins'.skipBlanks_eq, hread' fuel (setMember name v done) rest (by simp at hfuel; omega)]
  rfl

end IsRead

/-- Whatever the grammar derives is read as what it spells. -/
theorem Spells.isRead {n : Nat} {t : Text} {part : Part} (h : Spells n t part) : IsRead n t part := by
  induction h with
  | null => exact .value ⟨'n', _, rfl, by decide⟩ fun _ _ _ _ => rfl
  | true => exact .value ⟨'t', _, rfl, by decide⟩ fun _ _ _ _ => rfl
  | false => exact .value ⟨'f', _, rfl, by decide⟩ fun _ _ _ _ => rfl
  | number h => exact .number h
  | string h => exact .string h
  | emptyArray h => exact .emptyArray h
  | array hbefore _ ih => exact .array hbefore ih
  | lastItem _ hafter ih => exact .lastItem ih hafter
  | item _ hafter hbefore _ ih ihrest => exact .item ih hafter hbefore ihrest
  | emptyObject h => exact .emptyObject h
  | object hbefore _ ih => exact .object hbefore ih
  | member hname hbefore hafter _ ih => exact .member hname hbefore hafter ih
  | lastMember _ hafter ih => exact .lastMember ih hafter
  | moreMembers _ hafter hbefore _ ih ihrest => exact .moreMembers ih hafter hbefore ihrest

/-- A value with blanks around it is read as the value. -/
theorem Spells.read_eq {n : Nat} {before t after : Text} {v : Json} (h : Spells n t (.value v))
    (hbefore : IsBlanks before) (hafter : IsBlanks after) : read n (before ++ t ++ after) = .ok v := by
  obtain ⟨hbegins, hread⟩ := h.isRead
  have hends : EndsNumber after := by
    have happend := endsNumber_blanks hafter endsNumber_nil
    rwa [List.append_nil] at happend
  unfold read
  rw [List.append_assoc, skipBlanks_append hbefore, hbegins.skipBlanks_eq, hread _ _ (by simp; omega) hends]
  dsimp only
  rw [skipBlanks_of_isBlanks hafter]
  rfl

/-! ## Bytes -/

/-- Bytes that begin with a brace or a blank, and behind that have no zero, are taken for UTF-8. -/
lemma detect_of_head {a : UInt8} {rest : Bytes} (ha : a ∈ [0x7b, 0x20, 0x09, 0x0a, 0x0d])
    (hzero : ∀ b ∈ rest, b ≠ 0) : Encoding.detect (a :: rest) = (.utf8, 0) := by
  simp only [List.mem_cons, List.not_mem_nil, or_false] at ha
  rcases rest with _ | ⟨b, _ | ⟨c, _ | ⟨d, rest⟩⟩⟩
  · rcases ha with rfl | rfl | rfl | rfl | rfl <;> rfl
  · have hb : b ≠ 0 := hzero b (by simp)
    rcases ha with rfl | rfl | rfl | rfl | rfl <;> exact if_neg hb
  · rcases ha with rfl | rfl | rfl | rfl | rfl <;> rfl
  · have hb : b ≠ 0 := hzero b (by simp)
    rcases ha with rfl | rfl | rfl | rfl | rfl <;> exact if_neg hb

/-- An object is spelled with a brace in front. -/
lemma Spells.object_begins {n : Nat} {t : Text} {ms : List (Text × Json)} (h : Spells n t (.value (.object ms))) :
    ∃ rest, t = '\x7b' :: rest := by
  cases h with
  | number h => exact nomatch h
  | emptyObject h => exact ⟨_, rfl⟩
  | object hbefore h => exact ⟨_, rfl⟩

/-- The bytes of an object with blanks around it are read as the object. -/
theorem Spells.ofBytes_eq {n : Nat} {before t after : Text} {ms : List (Text × Json)}
    (h : Spells n t (.value (.object ms))) (hbefore : IsBlanks before) (hafter : IsBlanks after) :
    ofBytes n (Text.Utf8.encode (before ++ t ++ after)) = .ok (.object ms) := by
  have hnul : '\x00' ∉ before ++ t ++ after := by
    simp [nul_notMem_blanks hbefore, h.nul_notMem, nul_notMem_blanks hafter]
  obtain ⟨c, rest, htext, hhead⟩ : ∃ c rest, before ++ t ++ after = c :: rest ∧
      (c.toNat < 0x80 ∧ UInt8.ofNat c.toNat ∈ [0x7b, 0x20, 0x09, 0x0a, 0x0d]) := by
    cases before with
    | nil =>
      obtain ⟨rest, rfl⟩ := h.object_begins
      exact ⟨'\x7b', rest ++ after, rfl, by decide⟩
    | cons c before =>
      refine ⟨c, before ++ t ++ after, rfl, ?_⟩
      rcases hbefore c List.mem_cons_self with rfl | rfl | rfl | rfl <;> decide
  have hdetect : Encoding.detect (Text.Utf8.encode (before ++ t ++ after)) = (.utf8, 0) := by
    have hzero := Text.Utf8.zero_notMem_encode hnul
    rw [htext, Text.Utf8.encode_cons_of_lt hhead.1] at hzero ⊢
    exact detect_of_head hhead.2 fun b hb => ne_of_mem_of_not_mem (List.mem_cons_of_mem _ hb) hzero
  unfold ofBytes
  rw [hdetect]
  simp only [Encoding.decode?, List.drop_zero, Text.Utf8.decodeSurrogates?_encode]
  exact h.read_eq hbefore hafter

end Counterpart.Json
