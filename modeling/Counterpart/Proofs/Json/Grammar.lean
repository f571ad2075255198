import Counterpart.Json.Reader
import Mathlib.Tactic.Lemma

/-!
# The grammar of JSON

Which texts spell which values, told independently of how they are read.

* `SpellsChar`, `SpellsNumber` and `Spells`: the grammar;
* `Begins` and `Spells.nul_notMem`: with which characters a number begins, and that no text has a NUL in it.
-/

namespace Counterpart.Json

/-! ## The grammar -/

/-- What may stand between the parts of a text. -/
def IsBlanks (t : Text) : Prop := ∀ c ∈ t, c = ' ' ∨ c = '\t' ∨ c = '\n' ∨ c = '\r'

/-- A hexadecimal digit, in lower or upper case, and its value. -/
def IsHexDigit (c : Char) (n : Nat) : Prop := n < 16 ∧ (c = Nat.digitChar n ∨ c = (Nat.digitChar n).toUpper)

/-- Four hexadecimal digits and the number that they write. -/
inductive IsFourHex : Text → Nat → Prop
  | intro {a b c d : Char} {i j k l : Nat} (ha : IsHexDigit a i) (hb : IsHexDigit b j) (hc : IsHexDigit c k)
      (hd : IsHexDigit d l) : IsFourHex [a, b, c, d] (((i * 16 + j) * 16 + k) * 16 + l)

/-- The escapes of one letter. -/
def shortEscapes : List (Char × Char) :=
  [('"', '"'), ('\\', '\\'), ('/', '/'), ('b', '\x08'), ('f', '\x0c'), ('n', '\n'), ('r', '\r'), ('t', '\t')]

/-- The texts that spell a character inside a string. -/
inductive SpellsChar : Text → Char → Prop
  | plain {c : Char} (hquote : c ≠ '"') (hbackslash : c ≠ '\\') (hcontrol : 0x20 ≤ c.toNat) : SpellsChar [c] c
  | short {e c : Char} (h : (e, c) ∈ shortEscapes) : SpellsChar ['\\', e] c
  | unicode {digits : Text} {c : Char} (h : IsFourHex digits c.toNat) : SpellsChar ('\\' :: 'u' :: digits) c
  /-- A character beyond the first plane, as a surrogate pair. -/
  | pair {first second : Text} {high low : Nat} {c : Char} (hfirst : IsFourHex first high)
      (hsecond : IsFourHex second low) (hhigh : 0xD800 ≤ high ∧ high < 0xDC00) (hlow : 0xDC00 ≤ low ∧ low < 0xE000)
      (hc : c.toNat = 0x10000 + (high - 0xD800) * 0x400 + (low - 0xDC00)) :
      SpellsChar ('\\' :: 'u' :: first ++ '\\' :: 'u' :: second) c

/-- The texts that spell the characters of a string. -/
inductive SpellsChars : Text → Text → Prop
  | nil : SpellsChars [] []
  | cons {t rest s : Text} {c : Char} (hc : SpellsChar t c) (hrest : SpellsChars rest s) :
      SpellsChars (t ++ rest) (c :: s)

/-- Decimal digits as a text. -/
def digitsText (digits : List Nat) : Text := digits.map Nat.digitChar

/-- The number that decimal digits write. -/
def decimal (digits : List Nat) : Nat := digits.foldl (fun n d => 10 * n + d) 0

/-- A number with its sign. -/
def signed (negative : Bool) (n : Nat) : Int := if negative then -(n : Int) else n

/-- The digits before the point: a zero, or digits that do not begin with one. -/
def IsWhole (digits : List Nat) : Prop := digits = [0] ∨ ∃ d rest, digits = d :: rest ∧ d ≠ 0

/-- The texts that spell the digits behind the point, and the point if there are any. -/
inductive SpellsPlaces : Text → List Nat → Prop
  | none : SpellsPlaces [] []
  | some {d : Nat} {rest : List Nat} (h : ∀ n ∈ d :: rest, n < 10) :
      SpellsPlaces ('.' :: digitsText (d :: rest)) (d :: rest)

/-- The texts that spell an exponent. -/
inductive SpellsPower : Text → Option Int → Prop
  | none : SpellsPower [] none
  | some {e : Char} {sign : Text} {negative : Bool} {d : Nat} {rest : List Nat} (he : e = 'e' ∨ e = 'E')
      (hsign : (sign, negative) ∈ [([], false), (['+'], false), (['-'], true)]) (h : ∀ n ∈ d :: rest, n < 10) :
      SpellsPower (e :: sign ++ digitsText (d :: rest)) (some (signed negative (decimal (d :: rest))))

/-- The texts that spell a number.  One with neither places nor exponent is an integer. -/
inductive SpellsNumber : Text → Json → Prop
  | int {negative : Bool} {whole : List Nat} (hwhole : IsWhole whole) (h : ∀ n ∈ whole, n < 10)
      (hlength : whole.length ≤ greatestIntegerDigits) :
      SpellsNumber ((if negative then ['-'] else []) ++ digitsText whole) (.int (signed negative (decimal whole)))
  | float {negative : Bool} {whole places : List Nat} {placesText powerText : Text} {power : Option Int}
      (hwhole : IsWhole whole) (h : ∀ n ∈ whole, n < 10) (hplaces : SpellsPlaces placesText places)
      (hpower : SpellsPower powerText power) (hsome : places ≠ [] ∨ power ≠ none) :
      SpellsNumber ((if negative then ['-'] else []) ++ digitsText whole ++ placesText ++ powerText)
        (.float (.ofDecimal negative (whole ++ places) (power.getD 0 - places.length)))

/-- A part of a JSON text. -/
inductive Part
  | value (v : Json)
  /-- The items of an array. -/
  | items (vs : List Json)
  | member (name : Text) (v : Json)
  /-- The members of an object. -/
  | members (ms : List (Text × Json))

/-- The members of an object of which some members are written; of those with the same name the last one counts. -/
def setMembers (done ms : List (Text × Json)) : List (Text × Json) :=
  ms.foldl (fun done m => setMember m.1 m.2 done) done

/-- The texts that spell a part; the number bounds how deep arrays and objects lie in one another. -/
inductive Spells : Nat → Text → Part → Prop
  | null {n : Nat} : Spells n "null".toList (.value .null)
  | true {n : Nat} : Spells n "true".toList (.value (.bool true))
  | false {n : Nat} : Spells n "false".toList (.value (.bool false))
  | number {n : Nat} {t : Text} {v : Json} (h : SpellsNumber t v) : Spells n t (.value v)
  | string {n : Nat} {t s : Text} (h : SpellsChars t s) : Spells n ('"' :: t ++ ['"']) (.value (.string s))
  | emptyArray {n : Nat} {blanks : Text} (h : IsBlanks blanks) :
      Spells (n + 1) ('[' :: blanks ++ [']']) (.value (.array []))
  | array {n : Nat} {before t : Text} {vs : List Json} (hbefore : IsBlanks before) (h : Spells n t (.items vs)) :
      Spells (n + 1) ('[' :: before ++ t ++ [']']) (.value (.array vs))
  | lastItem {n : Nat} {t after : Text} {v : Json} (h : Spells n t (.value v)) (hafter : IsBlanks after) :
      Spells n (t ++ after) (.items [v])
  | item {n : Nat} {t after before rest : Text} {v : Json} {vs : List Json} (h : Spells n t (.value v))
      (hafter : IsBlanks after) (hbefore : IsBlanks before) (hrest : Spells n rest (.items vs)) :
      Spells n (t ++ after ++ ',' :: before ++ rest) (.items (v :: vs))
  | emptyObject {n : Nat} {blanks : Text} (h : IsBlanks blanks) :
      Spells (n + 1) ('\x7b' :: blanks ++ ['\x7d']) (.value (.object []))
  | object {n : Nat} {before t : Text} {ms : List (Text × Json)} (hbefore : IsBlanks before)
      (h : Spells n t (.members ms)) :
      Spells (n + 1) ('\x7b' :: before ++ t ++ ['\x7d']) (.value (.object (setMembers [] ms)))
  | member {n : Nat} {nameText before after t name : Text} {v : Json} (hname : SpellsChars nameText name)
      (hbefore : IsBlanks before) (hafter : IsBlanks after) (h : Spells n t (.value v)) :
      Spells n ('"' :: nameText ++ '"' :: before ++ ':' :: after ++ t) (.member name v)
  | lastMember {n : Nat} {t after name : Text} {v : Json} (h : Spells n t (.member name v)) (hafter : IsBlanks after) :
      Spells n (t ++ after) (.members [(name, v)])
  | moreMembers {n : Nat} {t after before rest name : Text} {v : Json} {ms : List (Text × Json)}
      (h : Spells n t (.member name v)) (hafter : IsBlanks after) (hbefore : IsBlanks before)
      (hrest : Spells n rest (.members ms)) :
      Spells n (t ++ after ++ ',' :: before ++ rest) (.members ((name, v) :: ms))

/-- Characters that need no escape spell themselves. -/
lemma spellsChars_append {t rest s : Text} (h : ∀ c ∈ t, c ≠ '"' ∧ c ≠ '\\' ∧ 0x20 ≤ c.toNat)
    (hrest : SpellsChars rest s) : SpellsChars (t ++ rest) (t ++ s) := by
  induction t with
  | nil => exact hrest
  | cons c t ih =>
    obtain ⟨hquote, hbackslash, hcontrol⟩ := h c List.mem_cons_self
    have hmore := ih fun d hd => h d (List.mem_cons_of_mem c hd)
    have hall := SpellsChars.cons (.plain hquote hbackslash hcontrol) hmore
    exact hall

/-- A text of such characters spells itself. -/
lemma spellsChars_plain (t : Text) (h : ∀ c ∈ t, c ≠ '"' ∧ c ≠ '\\' ∧ 0x20 ≤ c.toNat) : SpellsChars t t := by
  have happend := spellsChars_append h .nil
  rwa [List.append_nil] at happend

lemma isBlanks_nil : IsBlanks [] := fun _ hc => absurd hc List.not_mem_nil

/-! ## Digits -/

/-- A hexadecimal digit is read as its value. -/
lemma hexDigit?_eq {c : Char} {n : Nat} (h : IsHexDigit c n) : Text.hexDigit? c = some n := by
  obtain ⟨hn, hc⟩ := h
  have hlower : ∀ n < 16, Text.hexDigit? (Nat.digitChar n) = some n := by decide
  have hupper : ∀ n < 16, Text.hexDigit? (Nat.digitChar n).toUpper = some n := by decide
  rcases hc with rfl | rfl
  · exact hlower n hn
  · exact hupper n hn

/-- The character of a digit is a digit, and tells which. -/
lemma digitChar_spec {d : Nat} (h : d < 10) :
    (Nat.digitChar d).isDigit = Bool.true ∧ (Nat.digitChar d).toNat - 0x30 = d := by
  have hall : ∀ d < 10, (Nat.digitChar d).isDigit = Bool.true ∧ (Nat.digitChar d).toNat - 0x30 = d := by decide
  exact hall d h

/-- A whole number has a digit in front. -/
lemma IsWhole.exists_cons {whole : List Nat} (h : IsWhole whole) : ∃ d digits, whole = d :: digits := by
  rcases h with rfl | ⟨d, digits, rfl, -⟩
  · exact ⟨0, [], rfl⟩
  · exact ⟨d, digits, rfl⟩

/-! ## Beginnings -/

/-- A text begins with a character that is no blank and closes nothing. -/
def Begins (t : Text) : Prop := ∃ c rest, t = c :: rest ∧ isJsonBlank c = Bool.false ∧ c ≠ ']' ∧ c ≠ '\x7d'

lemma Begins.append {t : Text} (h : Begins t) (rest : Text) : Begins (t ++ rest) := by
  obtain ⟨c, t, rfl, hc⟩ := h
  exact ⟨c, t ++ rest, rfl, hc⟩

/-- A whole number begins a value. -/
lemma begins_digitsText {whole : List Nat} (hwhole : IsWhole whole) (h : ∀ d ∈ whole, d < 10) :
    Begins (digitsText whole) := by
  obtain ⟨d, digits, rfl⟩ := hwhole.exists_cons
  have hall : ∀ d < 10, isJsonBlank (Nat.digitChar d) = Bool.false ∧ Nat.digitChar d ≠ ']' ∧
      Nat.digitChar d ≠ '\x7d' := by decide
  exact ⟨Nat.digitChar d, digitsText digits, rfl, hall d (h d List.mem_cons_self)⟩

/-- A number begins a value. -/
lemma begins_number {t : Text} {v : Json} (h : SpellsNumber t v) : Begins t := by
  have hsigned {digits : Text} (negative : Bool) (hdigits : Begins digits) :
      Begins ((if negative then ['-'] else []) ++ digits) := by
    cases negative with
    | true => exact ⟨'-', digits, rfl, by decide⟩
    | false => exact hdigits
  cases h with
  | int hwhole h hlength => exact hsigned _ (begins_digitsText hwhole h)
  | float hwhole h hplaces hpower hsome => exact ((hsigned _ (begins_digitsText hwhole h)).append _).append _

/-! ## No NUL -/

lemma nul_notMem_blanks {blanks : Text} (h : IsBlanks blanks) : '\x00' ∉ blanks := by
  intro hmem
  exact absurd (h _ hmem) (by decide)

lemma nul_notMem_fourHex {digits : Text} {n : Nat} (h : IsFourHex digits n) : '\x00' ∉ digits := by
  have hdigit {c : Char} {n : Nat} (h : IsHexDigit c n) : '\x00' ≠ c := by
    rintro rfl
    have hread := hexDigit?_eq h
    exact nomatch hread
  obtain ⟨ha, hb, hc, hd⟩ := h
  simp [hdigit ha, hdigit hb, hdigit hc, hdigit hd]

/-- No NUL stands in the spelling of a character: it has to be escaped. -/
lemma nul_notMem_char {t : Text} {c : Char} (h : SpellsChar t c) : '\x00' ∉ t := by
  cases h with
  | plain hquote hbackslash hcontrol =>
    rw [List.mem_singleton]
    rintro rfl
    exact absurd hcontrol (by decide)
  | @short e c h =>
    have hall : ∀ pair ∈ shortEscapes, '\x00' ∉ ['\\', pair.1] := by decide
    exact hall (e, c) h
  | unicode h => simp [nul_notMem_fourHex h]
  | pair hfirst hsecond hhigh hlow hc => simp [nul_notMem_fourHex hfirst, nul_notMem_fourHex hsecond]

/-- No NUL stands in the spelling of a string. -/
lemma nul_notMem_chars {t s : Text} (h : SpellsChars t s) : '\x00' ∉ t := by
  induction h with
  | nil => exact List.not_mem_nil
  | cons hc hrest ih => simp [nul_notMem_char hc, ih]

lemma nul_notMem_digitsText {digits : List Nat} (h : ∀ d ∈ digits, d < 10) : '\x00' ∉ digitsText digits := by
  intro hmem
  obtain ⟨d, hd, hchar⟩ := List.mem_map.mp hmem
  have hdigit := (digitChar_spec (h d hd)).1
  rw [hchar] at hdigit
  exact absurd hdigit (by decide)

/-- No NUL stands in the spelling of a number. -/
lemma nul_notMem_number {t : Text} {v : Json} (h : SpellsNumber t v) : '\x00' ∉ t := by
  have hsign (negative : Bool) : '\x00' ∉ (if negative then ['-'] else [] : Text) := by cases negative <;> decide
  have hplacesText {t : Text} {places : List Nat} (h : SpellsPlaces t places) : '\x00' ∉ t := by
    cases h with
    | none => exact List.not_mem_nil
    | some h => simp [nul_notMem_digitsText h]
  have hpowerText {t : Text} {power : Option Int} (h : SpellsPower t power) : '\x00' ∉ t := by
    cases h with
    | none => exact List.not_mem_nil
    | @some e _ _ _ _ he hsign h =>
      have hletter : '\x00' ≠ e := by
        rcases he with rfl | rfl <;> decide
      simp only [List.mem_cons, Prod.mk.injEq, List.not_mem_nil, or_false] at hsign
      rcases hsign with ⟨rfl, -⟩ | ⟨rfl, -⟩ | ⟨rfl, -⟩ <;> simp [nul_notMem_digitsText h, hletter]
  cases h with
  | int hwhole h hlength => simp only [List.mem_append, not_or]; exact ⟨hsign _, nul_notMem_digitsText h⟩
  | float hwhole h hplaces hpower hsome =>
    simp only [List.mem_append, not_or]
    exact ⟨⟨⟨hsign _, nul_notMem_digitsText h⟩, hplacesText hplaces⟩, hpowerText hpower⟩

/-- No NUL stands in the spelling of any value, so that its bytes show how they are encoded. -/
lemma Spells.nul_notMem {n : Nat} {t : Text} {part : Part} (h : Spells n t part) : '\x00' ∉ t := by
  induction h with
  | null => decide
  | true => decide
  | false => decide
  | number h => exact nul_notMem_number h
  | string h => simp [nul_notMem_chars h]
  | emptyArray h => simp [nul_notMem_blanks h]
  | array hbefore h ih => simp [nul_notMem_blanks hbefore, ih]
  | lastItem h hafter ih => simp [nul_notMem_blanks hafter, ih]
  | item h hafter hbefore hrest ih ihrest =>
    simp [nul_notMem_blanks hafter, nul_notMem_blanks hbefore, ih, ihrest]
  | emptyObject h => simp [nul_notMem_blanks h]
  | object hbefore h ih => simp [nul_notMem_blanks hbefore, ih]
  | member hname hbefore hafter h ih =>
    simp [nul_notMem_chars hname, nul_notMem_blanks hbefore, nul_notMem_blanks hafter, ih]
  | lastMember h hafter ih => simp [nul_notMem_blanks hafter, ih]
  | moreMembers h hafter hbefore hrest ih ihrest =>
    simp [nul_notMem_blanks hafter, nul_notMem_blanks hbefore, ih, ihrest]

end Counterpart.Json
