import Counterpart.Proofs.Number.Plain
import Counterpart.Proofs.Text.Trim

/-!
# Reading numerals

A text is read as a number if and only if the grammar has it write that number.

* `exponentPart?_eq_some_iff` and `unsigned?_eq_some_iff`: the parts of a plain numeral;
* `isReadAs_iff`: plain numerals;
* `numeral?_eq_some_iff`: all of them.
-/

namespace Counterpart.Number

open Json (decimal digitsText)

/-! ## Powers of ten -/

/-- The powers of ten among plain texts. -/
lemma exponentPart?_eq_some_iff {t : Text} {power : Int} :
    exponentPart? t = some power ↔ SpellsPower IsPlainDigits t power := by
  constructor
  · intro h
    cases t with
    | nil =>
      obtain rfl := Option.some.inj h
      exact .one
    | cons e t =>
      unfold exponentPart? at h
      dsimp only at h
      split at h
      · next he =>
        obtain ⟨sign, hsign, ht⟩ := exists_of_leadingSign t
        obtain ⟨hdigits, hsmall, -⟩ := leadingDigits_spec (leadingSign t).2
        split at h
        · exact nomatch h
        · next hwhole =>
          rw [not_or, not_not, List.isEmpty_iff, List.isEmpty_iff] at hwhole
          obtain rfl := Option.some.inj h
          rw [hwhole.2, List.append_nil] at hdigits
          have hplain : IsPlainDigits (leadingSign t).2 (leadingDigits (leadingSign t).2).1 := ⟨hdigits, hsmall⟩
          have hspells := SpellsPower.tenTo he hsign hplain hwhole.1
          rwa [ht] at hspells
      · exact nomatch h
  · intro h
    cases h with
    | one => rfl
    | @tenTo e sign t negative digits he hsign h hne =>
      obtain ⟨rfl, hsmall⟩ := h
      have hleading : leadingSign (sign ++ digitsText digits) = (negative, digitsText digits) :=
        leadingSign_append hsign fun c hc =>
          ne_sign_of_isDigit (isDigit_of_mem_digitsText hsmall (List.mem_of_mem_head? hc))
      have hdigits := leadingDigits_append hsmall endsDigits_nil
      rw [List.append_nil] at hdigits
      unfold exponentPart?
      dsimp only
      rw [if_pos he, hleading]
      dsimp only
      rw [hdigits, if_neg (by simp [hne])]
      rfl

/-! ## Numbers without sign -/

/-- The digits behind a point, if one comes first, and what follows them. -/
def placesOf (t : Text) : List Nat × Text :=
  match t with
  | '.' :: after => leadingDigits after
  | _ => ([], t)

lemma placesOf_other {t : Text} (h : t.head? ≠ some '.') : placesOf t = ([], t) := by
  unfold placesOf
  split
  · exact absurd rfl h
  · rfl

lemma unsigned?_eq (negative : Bool) (p : Text) :
    unsigned? negative p =
      if (leadingDigits p).1 = [] ∧ (placesOf (leadingDigits p).2).1 = [] then none
      else (exponentPart? (placesOf (leadingDigits p).2).2).map fun exponent =>
        .ofDecimal negative ((leadingDigits p).1 ++ (placesOf (leadingDigits p).2).1)
          (exponent - (placesOf (leadingDigits p).2).1.length) := by
  simp only [← List.isEmpty_iff]
  rfl

/-- The numbers without sign among plain texts. -/
lemma unsigned?_eq_some_iff {negative : Bool} {p : Text} {x : Binary64} :
    unsigned? negative p = some x ↔ ∃ t u whole places power, p = t ++ u ∧
      SpellsDecimal IsPlainDigits t whole places ∧ SpellsPower IsPlainDigits u power ∧
      x = .nearest negative (decimal (whole ++ places) * 10 ^ (power - places.length)) := by
  rw [unsigned?_eq]
  constructor
  · intro h
    obtain ⟨hwhole, hsmall, -⟩ := leadingDigits_spec p
    split at h
    · exact nomatch h
    · next hne =>
      obtain ⟨power, hpower, rfl⟩ := Option.map_eq_some_iff.mp h
      by_cases hpoint : (leadingDigits p).2.head? = some '.'
      · obtain ⟨after, hrest⟩ := List.head?_eq_some_iff.mp hpoint
        obtain ⟨hplaces, hsmallPlaces, -⟩ := leadingDigits_spec after
        have hafter : placesOf (leadingDigits p).2 = leadingDigits after := by rw [hrest]; rfl
        rw [hafter] at hne hpower ⊢
        refine ⟨_, _, _, _, power, ?_, .point ⟨rfl, hsmall⟩ ⟨rfl, hsmallPlaces⟩ (not_and_or.mp hne),
          exponentPart?_eq_some_iff.mp hpower, ?_⟩
        · rw [List.append_assoc, List.cons_append, ← hplaces, ← hrest, ← hwhole]
        · exact Binary64.ofDecimal_eq_nearest negative (List.forall_mem_append.mpr ⟨hsmall, hsmallPlaces⟩) _
      · rw [placesOf_other hpoint] at hne hpower ⊢
        refine ⟨_, _, _, [], power, hwhole, .whole ⟨rfl, hsmall⟩ (by simpa using hne),
          exponentPart?_eq_some_iff.mp hpower, ?_⟩
        exact Binary64.ofDecimal_eq_nearest negative (by simpa using hsmall) _
  · rintro ⟨t, u, whole, places, power, rfl, hdecimal, hpower, rfl⟩
    have hexponent := exponentPart?_eq_some_iff.mpr hpower
    cases hdecimal with
    | whole h hne =>
      obtain ⟨rfl, hsmall⟩ := h
      have hpoint : u.head? ≠ some '.' := fun hc => by rcases hpower.head hc with h | h <;> exact nomatch h
      rw [leadingDigits_append hsmall hpower.endsDigits, placesOf_other hpoint, if_neg fun h => hne h.1, hexponent,
        ← Binary64.ofDecimal_eq_nearest negative (by simpa using hsmall)]
      rfl
    | point h hplaces hne =>
      obtain ⟨rfl, hsmall⟩ := h
      obtain ⟨rfl, hsmallPlaces⟩ := hplaces
      have hplaces : placesOf ('.' :: (digitsText places ++ u)) = (places, u) :=
        leadingDigits_append hsmallPlaces hpower.endsDigits
      rw [List.append_assoc, List.cons_append, leadingDigits_append hsmall (endsDigits_cons rfl _), hplaces,
        if_neg (not_and_or.mpr hne), hexponent,
        ← Binary64.ofDecimal_eq_nearest negative (List.forall_mem_append.mpr ⟨hsmall, hsmallPlaces⟩)]
      rfl

/-! ## Numerals -/

/-- What a plain text is read as: a word behind the sign, or a number. -/
inductive IsReadAs (p : Text) : Binary64 → Prop
  | infinite (hword : (leadingSign p).2.map Char.toLower ∈ infinityWords) : IsReadAs p (.infinite (leadingSign p).1)
  | nan (hword : (leadingSign p).2.map Char.toLower = "nan".toList) : IsReadAs p .nan
  | number {x : Binary64} (hword : (leadingSign p).2.map Char.toLower ∉ words)
      (h : unsigned? (leadingSign p).1 (leadingSign p).2 = some x) : IsReadAs p x

lemma numeral?_eq_some_iff_isReadAs {t : Text} {x : Binary64} :
    numeral? t = some x ↔ ∃ p, plain? (t.trim isNumeralBlank) = some p ∧ IsReadAs p x := by
  unfold numeral?
  rw [Option.bind_eq_bind, Option.bind_eq_some_iff]
  refine exists_congr fun p => and_congr_right fun _ => ?_
  dsimp only
  constructor
  · intro h
    split at h
    · next hword =>
      obtain rfl := Option.some.inj h
      exact .infinite hword
    · next hinfinity =>
      split at h
      · next hword =>
        obtain rfl := Option.some.inj h
        exact .nan hword
      · next hnan => exact .number (List.not_mem_cons_of_ne_of_not_mem hnan hinfinity) h
  · intro h
    cases h with
    | infinite hword => rw [if_pos hword]; rfl
    | nan hword => rw [if_neg (by rw [hword]; decide), if_pos hword]; rfl
    | number hword h =>
      have hnan : (leadingSign p).2.map Char.toLower ≠ "nan".toList := List.ne_of_not_mem_cons hword
      have hinfinity : (leadingSign p).2.map Char.toLower ∉ infinityWords := List.not_mem_of_not_mem_cons hword
      rw [if_neg hinfinity, if_neg hnan, h]

lemma leadingSign_word {sign word : Text} {negative : Bool} (hsign : (sign, negative) ∈ signs)
    (hword : word.map Char.toLower ∈ words) : leadingSign (sign ++ word) = (negative, word) := by
  refine leadingSign_append hsign fun c hc => ?_
  obtain ⟨hlow, -, -⟩ := isLetter_of_mem_words hword c (List.mem_of_mem_head? hc)
  constructor <;> rintro rfl <;> exact absurd hlow (by decide)

/-- Digits come first, or the point. -/
lemma SpellsDecimal.exists_head {t : Text} {whole places : List Nat} (h : SpellsDecimal IsPlainDigits t whole places) :
    ∃ c rest, t = c :: rest ∧ (c.isDigit = true ∨ c = '.') := by
  have hfirst {d : Nat} {digits : List Nat} (h : ∀ e ∈ d :: digits, e < 10) : (Nat.digitChar d).isDigit = true :=
    (Json.digitChar_spec (h d List.mem_cons_self)).1
  cases h with
  | whole h hne =>
    obtain ⟨rfl, hsmall⟩ := h
    obtain ⟨d, digits, rfl⟩ := List.exists_cons_of_ne_nil hne
    exact ⟨_, _, rfl, .inl (hfirst hsmall)⟩
  | point h hplaces hne =>
    obtain ⟨rfl, hsmall⟩ := h
    cases whole with
    | nil => exact ⟨_, _, rfl, .inr rfl⟩
    | cons d digits => exact ⟨_, _, rfl, .inl (hfirst hsmall)⟩

/-- Digits make no word. -/
lemma not_mem_words {c : Char} (hc : c.isDigit = true ∨ c = '.') (rest : Text) :
    (c :: rest).map Char.toLower ∉ words := by
  intro hword
  obtain ⟨hlow, -, -⟩ := isLetter_of_mem_words hword c List.mem_cons_self
  rcases hc with hdigit | rfl
  · obtain ⟨d, hd, rfl⟩ := exists_of_isDigit hdigit
    have hall : ∀ d < 10, (Nat.digitChar d).toNat < 0x41 := by decide
    exact absurd hlow (Nat.not_le.mpr (hall d hd))
  · exact absurd hlow (by decide)

/-- The plain texts that are read as numbers. -/
lemma isReadAs_iff {p : Text} {x : Binary64} : IsReadAs p x ↔ Spells IsPlainDigits p x := by
  constructor
  · intro h
    obtain ⟨sign, hsign, hp⟩ := exists_of_leadingSign p
    cases h with
    | infinite hword =>
      have hspells : Spells IsPlainDigits _ _ := .infinite hsign hword
      rwa [hp] at hspells
    | nan hword =>
      have hspells : Spells IsPlainDigits _ _ := .nan hsign hword
      rwa [hp] at hspells
    | number hword h =>
      obtain ⟨t, u, whole, places, power, hbody, hdecimal, hpower, rfl⟩ := unsigned?_eq_some_iff.mp h
      have hspells := Spells.decimal hsign hdecimal hpower
      rwa [← hbody, hp] at hspells
  · intro h
    cases h with
    | @infinite sign word negative hsign hword =>
      have hleading := leadingSign_word hsign (List.mem_cons_of_mem _ hword)
      have hread : IsReadAs (sign ++ word) (.infinite (leadingSign (sign ++ word)).1) := .infinite (by rwa [hleading])
      rwa [hleading] at hread
    | @nan sign word negative hsign hword =>
      have hleading : leadingSign (sign ++ word) = (negative, word) :=
        leadingSign_word hsign (hword ▸ List.mem_cons_self)
      exact .nan (by rwa [hleading])
    | @decimal sign t u negative whole places power hsign hdecimal hpower =>
      obtain ⟨c, rest, ht, hc⟩ := hdecimal.exists_head
      have hleading : leadingSign (sign ++ (t ++ u)) = (negative, t ++ u) := by
        refine leadingSign_append hsign fun a ha => ?_
        rw [ht, List.cons_append] at ha
        obtain rfl := Option.some.inj ha
        rcases hc with hdigit | rfl
        · exact ne_sign_of_isDigit hdigit
        · decide
      refine .number ?_ ?_
      · rw [hleading, ht]
        exact not_mem_words hc (rest ++ u)
      · rw [hleading]
        exact unsigned?_eq_some_iff.mpr ⟨t, u, whole, places, power, rfl, hdecimal, hpower, rfl⟩

/-- A text is read as a number if and only if it is a numeral for it. -/
theorem numeral?_eq_some_iff {t : Text} {x : Binary64} : numeral? t = some x ↔ IsNumeral t x := by
  simp only [numeral?_eq_some_iff_isReadAs, isReadAs_iff, ← spells_iff]
  constructor
  · intro h
    obtain ⟨before, after, ht, hbefore, hafter⟩ := Text.exists_trim isNumeralBlank t
    exact ⟨before, _, after, ht, hbefore, hafter, h⟩
  · rintro ⟨before, core, after, rfl, hbefore, hafter, h⟩
    rwa [Text.trim_append hbefore h.isSolid hafter]

/-- Underscores, a point and a power of ten. -/
example : numeral? " -1_0.5E+1".toList = some (.ofRatio true 105 1) := by decide +kernel

end Counterpart.Number
