import Counterpart.Number.Numeral
import Counterpart.Proofs.Json.Grammar
import Mathlib.Data.List.TakeWhile

/-!
# Leading signs and digits

What is taken off the beginning of a text when a number is read from it.

* `leadingSign_append` and `exists_of_leadingSign`: the sign;
* `leadingDigits_append` and `leadingDigits_spec`: the ASCII digits.
-/

namespace Counterpart.Number

open Json (digitsText)

/-! ## Signs -/

/-- The signs, and whether they are a minus. -/
def signs : List (Text × Bool) := [([], false), (['+'], false), (['-'], true)]

lemma leadingSign_append {sign body : Text} {negative : Bool} (hsign : (sign, negative) ∈ signs)
    (hbody : ∀ c, body.head? = some c → c ≠ '-' ∧ c ≠ '+') : leadingSign (sign ++ body) = (negative, body) := by
  simp only [signs, List.mem_cons, Prod.mk.injEq, List.not_mem_nil, or_false] at hsign
  rcases hsign with ⟨rfl, rfl⟩ | ⟨rfl, rfl⟩ | ⟨rfl, rfl⟩
  · rw [List.nil_append]
    unfold leadingSign
    split
    · exact absurd rfl (hbody '-' rfl).1
    · exact absurd rfl (hbody '+' rfl).2
    · rfl
  · rfl
  · rfl

lemma exists_of_leadingSign (t : Text) :
    ∃ sign, (sign, (leadingSign t).1) ∈ signs ∧ sign ++ (leadingSign t).2 = t := by
  unfold leadingSign
  split
  · exact ⟨['-'], by simp [signs], rfl⟩
  · exact ⟨['+'], by simp [signs], rfl⟩
  · exact ⟨[], by simp [signs], rfl⟩

/-! ## Digits -/

lemma exists_of_isDigit {c : Char} (h : c.isDigit = true) : ∃ d < 10, c = Nat.digitChar d := by
  have hrange : 0x30 ≤ c.toNat ∧ c.toNat ≤ 0x39 := by
    simp only [Char.isDigit, Bool.and_eq_true, decide_eq_true_eq] at h
    exact h
  have hall : ∀ d < 10, Char.ofNat (0x30 + d) = Nat.digitChar d := by decide
  refine ⟨c.toNat - 0x30, by omega, ?_⟩
  rw [← hall _ (by omega), Nat.add_sub_cancel' hrange.1, Char.ofNat_toNat]

lemma isDigit_of_mem_digitsText {digits : List Nat} (h : ∀ d ∈ digits, d < 10) {c : Char} (hc : c ∈ digitsText digits) :
    c.isDigit = true := by
  obtain ⟨d, hd, rfl⟩ := List.mem_map.mp hc
  exact (Json.digitChar_spec (h d hd)).1

/-- A digit is no sign. -/
lemma ne_sign_of_isDigit {c : Char} (h : c.isDigit = true) : c ≠ '-' ∧ c ≠ '+' := by
  constructor <;> rintro rfl <;> exact nomatch h

/-- A text does not begin with an ASCII digit. -/
def EndsDigits (t : Text) : Prop := ∀ c, t.head? = some c → c.isDigit = false

lemma endsDigits_nil : EndsDigits [] := fun _ h => nomatch h

lemma endsDigits_cons {c : Char} (h : c.isDigit = false) (t : Text) : EndsDigits (c :: t) := by
  intro a ha
  rwa [← Option.some.inj ha]

lemma leadingDigits_append {digits : List Nat} {rest : Text} (h : ∀ d ∈ digits, d < 10) (hrest : EndsDigits rest) :
    leadingDigits (digitsText digits ++ rest) = (digits, rest) := by
  have hdigits : ∀ c ∈ digitsText digits, c.isDigit = true := fun c hc => isDigit_of_mem_digitsText h hc
  have hstop : rest.takeWhile (·.isDigit) = [] ∧ rest.dropWhile (·.isDigit) = rest := by
    cases rest with
    | nil => exact ⟨rfl, rfl⟩
    | cons c rest =>
      have hc := hrest c rfl
      exact ⟨List.takeWhile_cons_of_neg (by simp [hc]), List.dropWhile_cons_of_neg (by simp [hc])⟩
  unfold leadingDigits
  rw [List.takeWhile_append_of_pos hdigits, List.dropWhile_append_of_pos hdigits, hstop.1, hstop.2, List.append_nil,
    digitsText, List.map_map]
  have hvalues : digits.map ((fun c => c.toNat - 0x30) ∘ Nat.digitChar) = digits.map id :=
    List.map_congr_left fun d hd => (Json.digitChar_spec (h d hd)).2
  exact Prod.ext (hvalues.trans (List.map_id digits)) rfl

/-- A text is its leading digits and what follows, and that does not begin with one. -/
lemma leadingDigits_spec (t : Text) :
    t = digitsText (leadingDigits t).1 ++ (leadingDigits t).2 ∧ (∀ d ∈ (leadingDigits t).1, d < 10) ∧
      EndsDigits (leadingDigits t).2 := by
  have hchars : ∀ c ∈ t.takeWhile (·.isDigit), ∃ d < 10, c = Nat.digitChar d := fun c hc =>
    exists_of_isDigit (List.mem_takeWhile_imp hc)
  unfold leadingDigits
  refine ⟨?_, ?_, ?_⟩
  · have hback : digitsText ((t.takeWhile (·.isDigit)).map (·.toNat - 0x30)) = t.takeWhile (·.isDigit) := by
      unfold digitsText
      rw [List.map_map]
      refine (List.map_congr_left fun c hc => ?_).trans (List.map_id _)
      obtain ⟨d, hd, rfl⟩ := hchars c hc
      exact congrArg Nat.digitChar (Json.digitChar_spec hd).2
    rw [hback, List.takeWhile_append_dropWhile]
  · intro n hn
    obtain ⟨c, hc, rfl⟩ := List.mem_map.mp hn
    obtain ⟨d, hd, rfl⟩ := hchars c hc
    rwa [(Json.digitChar_spec hd).2]
  · intro c hc
    simpa [hc] using List.head?_dropWhile_not (fun c : Char => c.isDigit) t

end Counterpart.Number
