import Counterpart.Number.Binary64
import Mathlib.Algebra.Order.Field.Power
import Mathlib.Data.Rat.Cast.Order
import Mathlib.Tactic.FieldSimp
import Mathlib.Tactic.GCongr
import Mathlib.Tactic.Linarith
import Mathlib.Tactic.Positivity
import Mathlib.Tactic.Ring

/-!
# Rounding to binary64

Where a ratio comes to lie among the floating-point numbers: at which size it is rounded up to infinity, and at which
one down to zero.

* `le_roundDiv_iff` and `binaryExponent_spec`: the two steps of rounding, told in rational numbers;
* `ofRatio_eq_infinite_iff`: a ratio becomes infinite from the middle between the greatest finite number and the next
  power of two on, and so does an integer (`ofInt?_eq_none_iff`);
* `isPositive_ofRatio_iff`: a ratio stays positive beyond one half of the least positive number.
-/

namespace Counterpart.Number.Binary64

/-! ## Signs -/

/-- What a finite number is worth. -/
def worth (negative : Bool) (significand : Nat) (exponent : Int) : ℚ :=
  (if negative then -1 else 1) * significand * 2 ^ exponent

/-- A number is greater than zero. -/
def IsPositive : Binary64 → Prop
  | .nan => False
  | .infinite negative => negative = false
  | .finite negative significand exponent => 0 < worth negative significand exponent

lemma worth_pos_iff {negative : Bool} {significand : Nat} {exponent : Int} :
    0 < worth negative significand exponent ↔ negative = false ∧ significand ≠ 0 := by
  have hpower : (0 : ℚ) < 2 ^ exponent := by positivity
  unfold worth
  rw [mul_pos_iff_of_pos_right hpower]
  cases negative with
  | false => simp [Nat.pos_iff_ne_zero]
  | true => simp

/-- Every number is at most zero or greater than zero, but for the one that is no number. -/
lemma isNonPositive_eq_false_iff {x : Binary64} : x.isNonPositive = false ↔ x.IsPositive ∨ x = .nan := by
  cases x with
  | nan => simp [isNonPositive]
  | infinite negative => simp [isNonPositive, IsPositive]
  | finite negative significand exponent => simp [isNonPositive, IsPositive, worth_pos_iff]

/-! ## Rounding a quotient -/

/-- A quotient is rounded to at least `m` if it lies beyond the middle before `m`, or just there and `m` is even. -/
lemma le_roundDiv_iff {num den : Nat} (hden : 0 < den) (m : Nat) :
    m ≤ roundDiv num den ↔ (m : ℚ) < num / den + 1 / 2 ∨ ((m : ℚ) = num / den + 1 / 2 ∧ m % 2 = 0) := by
  have hdenQ : (0 : ℚ) < den := by exact_mod_cast hden
  have hlt : (m : ℚ) < num / den + 1 / 2 ↔ 2 * (m * den) < 2 * num + den := by
    rw [← sub_lt_iff_lt_add, lt_div_iff₀ hdenQ, ← Nat.cast_lt (α := ℚ)]
    push_cast
    constructor <;> intro h <;> linarith
  have heq : (m : ℚ) = num / den + 1 / 2 ↔ 2 * (m * den) = 2 * num + den := by
    rw [← sub_eq_iff_eq_add, eq_div_iff hdenQ.ne', ← Nat.cast_inj (R := ℚ)]
    push_cast
    constructor <;> intro h <;> linarith
  rw [hlt, heq]
  have hsplit : den * (num / den) + num % den = num := Nat.div_add_mod num den
  have hrest : num % den < den := Nat.mod_lt num hden
  unfold roundDiv
  dsimp only
  generalize num / den = q at hsplit ⊢
  generalize num % den = r at hsplit hrest ⊢
  -- `m` lies at or below the quotient, one above it, or further above
  rcases Nat.lt_trichotomy m (q + 1) with hbelow | rfl | habove
  · have hproduct : m * den ≤ q * den := Nat.mul_le_mul_right den (Nat.le_of_lt_succ hbelow)
    have hcomm : den * q = q * den := Nat.mul_comm den q
    constructor
    · intro _
      omega
    · intro _
      split
      · omega
      · split
        · omega
        · split <;> omega
  · have hproduct : (q + 1) * den = den * q + den := by ring
    split
    · omega
    · split
      · omega
      · split <;> omega
  · have hproduct : (q + 2) * den ≤ m * den := Nat.mul_le_mul_right den habove
    have hexpand : (q + 2) * den = den * q + 2 * den := by ring
    constructor
    · intro h
      split at h
      · omega
      · split at h
        · omega
        · split at h <;> omega
    · omega

/-- A quotient below an integer is rounded to that integer at most. -/
lemma roundDiv_le {num den m : Nat} (hden : 0 < den) (h : (num : ℚ) / den < m) : roundDiv num den ≤ m := by
  by_contra hnot
  have hsucc : m + 1 ≤ roundDiv num den := Nat.lt_of_not_le hnot
  rw [le_roundDiv_iff hden] at hsucc
  push_cast at hsucc
  rcases hsucc with hlt | ⟨heq, -⟩ <;> linarith

/-! ## The place of the first bit -/

lemma scaled_pos {num den : Nat} (hden : 0 < den) (exponent : Int) : 0 < (scaled num den exponent).2 := by
  unfold scaled
  split
  · exact Nat.mul_pos hden (Nat.pow_pos Nat.two_pos)
  · exact hden

/-- Scaling divides by a power of two. -/
lemma scaled_div (num den : Nat) (exponent : Int) :
    ((scaled num den exponent).1 : ℚ) / (scaled num den exponent).2 = num / den / 2 ^ exponent := by
  unfold scaled
  cases exponent with
  | ofNat e =>
    have hpower : (2 : ℚ) ^ (Int.ofNat e) = 2 ^ e := zpow_natCast 2 e
    rw [hpower]
    push_cast [Nat.pow_eq]
    rw [div_div]
  | negSucc e =>
    have hpower : (2 : ℚ) ^ (Int.negSucc e) = (2 ^ (e + 1))⁻¹ := zpow_negSucc 2 e
    rw [hpower]
    push_cast [Nat.pow_eq]
    rw [div_inv_eq_mul]
    ring

/-- The exponent of a ratio is that of its first bit. -/
lemma binaryExponent_spec {num den : Nat} (hnum : 0 < num) (hden : 0 < den) :
    (2 : ℚ) ^ binaryExponent num den ≤ num / den ∧ (num : ℚ) / den < 2 ^ (binaryExponent num den + 1) := by
  have hdenQ : (0 : ℚ) < den := by exact_mod_cast hden
  have hnumLow : (2 : ℚ) ^ (num.log2 : Int) ≤ num := by
    rw [zpow_natCast]
    exact_mod_cast Nat.log2_self_le hnum.ne'
  have hnumHigh : (num : ℚ) < 2 ^ ((num.log2 : Int) + 1) := by
    exact_mod_cast Nat.lt_log2_self (n := num)
  have hdenLow : (2 : ℚ) ^ (den.log2 : Int) ≤ den := by
    rw [zpow_natCast]
    exact_mod_cast Nat.log2_self_le hden.ne'
  have hdenHigh : (den : ℚ) < 2 ^ ((den.log2 : Int) + 1) := by
    exact_mod_cast Nat.lt_log2_self (n := den)
  -- the first bits of both leave two places for that of the ratio
  have hlow : (2 : ℚ) ^ ((num.log2 : Int) - den.log2 - 1) ≤ num / den := by
    rw [le_div_iff₀ hdenQ]
    calc (2 : ℚ) ^ ((num.log2 : Int) - den.log2 - 1) * den
        ≤ 2 ^ ((num.log2 : Int) - den.log2 - 1) * 2 ^ ((den.log2 : Int) + 1) := by gcongr
      _ = 2 ^ (num.log2 : Int) := by rw [← zpow_add₀ two_ne_zero]; congr 1; ring
      _ ≤ num := hnumLow
  have hhigh : (num : ℚ) / den < 2 ^ ((num.log2 : Int) - den.log2 + 1) := by
    rw [div_lt_iff₀ hdenQ]
    calc (num : ℚ) < 2 ^ ((num.log2 : Int) + 1) := hnumHigh
      _ = 2 ^ ((num.log2 : Int) - den.log2 + 1) * 2 ^ (den.log2 : Int) := by
        rw [← zpow_add₀ two_ne_zero]; congr 1; ring
      _ ≤ 2 ^ ((num.log2 : Int) - den.log2 + 1) * den := by gcongr
  -- the comparison after scaling tells which of them it is
  have hscaled := scaled_div num den ((num.log2 : Int) - den.log2)
  have hpos : (0 : ℚ) < (scaled num den ((num.log2 : Int) - den.log2)).2 := by
    exact_mod_cast scaled_pos hden _
  unfold binaryExponent
  dsimp only
  split
  · next hge =>
    refine ⟨?_, hhigh⟩
    have hone : (1 : ℚ) ≤ num / den / 2 ^ ((num.log2 : Int) - den.log2) := by
      rw [← hscaled, le_div_iff₀ hpos, one_mul]
      exact_mod_cast hge
    rwa [le_div_iff₀ (by positivity), one_mul] at hone
  · next hlt =>
    refine ⟨hlow, ?_⟩
    have hone : (num : ℚ) / den / 2 ^ ((num.log2 : Int) - den.log2) < 1 := by
      rw [← hscaled, div_lt_iff₀ hpos, one_mul]
      exact_mod_cast Nat.lt_of_not_le hlt
    rwa [div_lt_iff₀ (by positivity), one_mul, ← sub_add_cancel ((num.log2 : Int) - den.log2) 1] at hone

/-! ## Rounding a ratio -/

/-- The least integer that is too large: the middle between the greatest finite number and `2 ^ 1024`. -/
def leastTooLarge : Nat := (2 ^ 54 - 1) * 2 ^ 970

/-- The exponent of the grid on which a ratio is rounded. -/
def gridExponent (num den : Nat) : Int := max (binaryExponent num den - 52) (-1074)

/-- The point of its grid to which a ratio is rounded. -/
def gridPoint (num den : Nat) : Nat :=
  roundDiv (scaled num den (gridExponent num den)).1 (scaled num den (gridExponent num den)).2

section Grid

variable {num den : Nat} (hnum : 0 < num) (hden : 0 < den)
include hnum hden

/-- Above the least exponent a ratio has 53 bits before the point of its grid, and there it has at most these. -/
lemma grid_spec :
    (num : ℚ) / den < 2 ^ (gridExponent num den + 53) ∧
      (gridExponent num den = -1074 ∨ (2 : ℚ) ^ (gridExponent num den + 52) ≤ num / den) := by
  obtain ⟨hlow, hhigh⟩ := binaryExponent_spec hnum hden
  unfold gridExponent
  rcases max_choice (binaryExponent num den - 52) (-1074) with hmax | hmax
  · rw [hmax]
    refine ⟨?_, .inr ?_⟩
    · rwa [show binaryExponent num den - 52 + 53 = binaryExponent num den + 1 by ring]
    · rwa [sub_add_cancel]
  · rw [hmax]
    have hle : binaryExponent num den + 1 ≤ -1074 + 53 := by omega
    exact ⟨hhigh.trans_le (zpow_le_zpow_right₀ one_le_two hle), .inl rfl⟩

omit hnum in
lemma le_gridPoint_iff (m : Nat) :
    m ≤ gridPoint num den ↔ (m : ℚ) < num / den / 2 ^ gridExponent num den + 1 / 2 ∨
      ((m : ℚ) = num / den / 2 ^ gridExponent num den + 1 / 2 ∧ m % 2 = 0) := by
  unfold gridPoint
  rw [le_roundDiv_iff (scaled_pos hden _), scaled_div]

lemma gridPoint_le : gridPoint num den ≤ 2 ^ 53 := by
  apply roundDiv_le (scaled_pos hden _)
  rw [scaled_div, div_lt_iff₀ (by positivity)]
  have hproduct : ((2 ^ 53 : Nat) : ℚ) * 2 ^ gridExponent num den = 2 ^ (gridExponent num den + 53) := by
    rw [Nat.cast_pow, Nat.cast_ofNat, ← zpow_natCast, ← zpow_add₀ two_ne_zero, add_comm, Nat.cast_ofNat]
  rw [hproduct]
  exact (grid_spec hnum hden).1

omit hden in
/-- A ratio becomes the number at the point of its grid; one that has been rounded up to 54 bits loses the last. -/
lemma ofRatio_eq (negative : Bool) :
    ofRatio negative num den =
      if gridPoint num den = 2 ^ 53 then
        if 970 < gridExponent num den then .infinite negative
        else .finite negative (2 ^ 52) (gridExponent num den + 1)
      else if 971 < gridExponent num den then .infinite negative
      else .finite negative (gridPoint num den) (gridExponent num den) := by
  have hpair (p : Nat × Int) (hp : (if gridPoint num den = 2 ^ 53 then (2 ^ 52, gridExponent num den + 1)
      else (gridPoint num den, gridExponent num den)) = p) :
      ofRatio negative num den = if 971 < p.2 then .infinite negative else .finite negative p.1 p.2 := by
    unfold ofRatio
    rw [if_neg hnum.ne', ← hp]
    rfl
  by_cases hpoint : gridPoint num den = 2 ^ 53
  · have hcarry : 971 < gridExponent num den + 1 ↔ 970 < gridExponent num den := by omega
    rw [hpair _ (if_pos hpoint), if_pos hpoint]
    simp only [hcarry]
  · rw [hpair _ (if_neg hpoint), if_neg hpoint]

omit hnum hden in
lemma leastTooLarge_eq : (leastTooLarge : ℚ) = (2 ^ 53 - 1 / 2) * 2 ^ (971 : Int) := by
  have hlast : (2 : ℚ) ^ (971 : Int) = 2 ^ 970 * 2 := by
    rw [show (971 : Int) = ((970 : Nat) : Int) + 1 from rfl, zpow_add_one₀ two_ne_zero, zpow_natCast]
  rw [hlast]
  unfold leastTooLarge
  rw [Nat.cast_mul, Nat.cast_pow, Nat.cast_ofNat]
  generalize (2 : ℚ) ^ 970 = power
  push_cast
  ring

/-- On the last grid of finite numbers a ratio is rounded up beyond them from the middle on. -/
lemma gridPoint_eq_iff (hexponent : gridExponent num den = 971) :
    gridPoint num den = 2 ^ 53 ↔ (leastTooLarge : ℚ) ≤ num / den := by
  have hle : gridPoint num den = 2 ^ 53 ↔ 2 ^ 53 ≤ gridPoint num den :=
    ⟨fun h => h.ge, fun h => (gridPoint_le hnum hden).antisymm h⟩
  rw [hle, le_gridPoint_iff hden, hexponent, leastTooLarge_eq, ← le_div_iff₀ (by positivity), sub_le_iff_le_add,
    le_iff_lt_or_eq, Nat.cast_pow, Nat.cast_ofNat]
  simp

/-- A ratio becomes infinite from the middle between the greatest finite number and the next power of two on. -/
theorem ofRatio_eq_infinite_iff {negative sign : Bool} :
    ofRatio negative num den = .infinite sign ↔ sign = negative ∧ (leastTooLarge : ℚ) ≤ num / den := by
  obtain ⟨hhigh, hlow⟩ := grid_spec hnum hden
  rw [ofRatio_eq hnum negative]
  rcases lt_trichotomy (gridExponent num den) 971 with hbelow | hlast | habove
  · -- below the last grid there are only finite numbers
    have hsmall : (num : ℚ) / den < leastTooLarge := by
      have hexponent : gridExponent num den + 53 ≤ 52 + 971 := by omega
      calc (num : ℚ) / den < 2 ^ (gridExponent num den + 53) := hhigh
        _ ≤ 2 ^ (52 + 971 : Int) := zpow_le_zpow_right₀ one_le_two hexponent
        _ = 2 ^ (52 : Int) * 2 ^ (971 : Int) := zpow_add₀ two_ne_zero 52 971
        _ ≤ (2 ^ 53 - 1 / 2) * 2 ^ (971 : Int) := by gcongr; norm_num
        _ = leastTooLarge := leastTooLarge_eq.symm
    rw [if_neg (by omega : ¬ 970 < gridExponent num den), if_neg (by omega : ¬ 971 < gridExponent num den)]
    constructor
    · intro h
      split at h <;> exact nomatch h
    · exact fun h => absurd h.2 (not_le.mpr hsmall)
  · rw [if_pos (by omega : 970 < gridExponent num den), if_neg (by omega : ¬ 971 < gridExponent num den),
      ← gridPoint_eq_iff hnum hden hlast]
    by_cases hpoint : gridPoint num den = 2 ^ 53
    · rw [if_pos hpoint]
      exact ⟨fun h => ⟨(Binary64.infinite.inj h).symm, hpoint⟩, fun h => congrArg Binary64.infinite h.1.symm⟩
    · rw [if_neg hpoint]
      exact ⟨fun h => absurd h (by simp), fun h => absurd h.2 hpoint⟩
  · have hlarge : (leastTooLarge : ℚ) ≤ num / den := by
      have hexponent : 53 + 971 ≤ gridExponent num den + 52 := by omega
      calc (leastTooLarge : ℚ) = (2 ^ 53 - 1 / 2) * 2 ^ (971 : Int) := leastTooLarge_eq
        _ ≤ 2 ^ (53 : Int) * 2 ^ (971 : Int) := by gcongr; norm_num
        _ = 2 ^ (53 + 971 : Int) := (zpow_add₀ two_ne_zero 53 971).symm
        _ ≤ 2 ^ (gridExponent num den + 52) := zpow_le_zpow_right₀ one_le_two hexponent
        _ ≤ num / den := hlow.resolve_left (by omega)
    rw [if_pos (by omega : 970 < gridExponent num den), if_pos habove, ite_self]
    exact ⟨fun h => ⟨(Binary64.infinite.inj h).symm, hlarge⟩, fun h => congrArg Binary64.infinite h.1.symm⟩

/-- A ratio is not rounded down to zero if it lies beyond one half of the least positive number. -/
lemma gridPoint_ne_zero_iff : gridPoint num den ≠ 0 ↔ (2 : ℚ) ^ (-1075 : Int) < num / den := by
  have hmiddle : ((1 : Nat) : ℚ) < num / den / 2 ^ gridExponent num den + 1 / 2 ↔
      (2 : ℚ) ^ (gridExponent num den - 1) < num / den := by
    rw [zpow_sub_one₀ two_ne_zero, mul_comm, ← lt_div_iff₀ (by positivity), ← one_div, Nat.cast_one]
    constructor <;> intro h <;> linarith
  rw [← Nat.one_le_iff_ne_zero, le_gridPoint_iff hden, hmiddle]
  simp only [Nat.one_mod, one_ne_zero, and_false, or_false]
  rcases (grid_spec hnum hden).2 with hleast | hbits
  · rw [hleast]
    norm_num
  · -- far above the least exponent both hold
    have hbeyond {exponent : Int} (h : exponent < gridExponent num den + 52) : (2 : ℚ) ^ exponent < num / den :=
      (zpow_lt_zpow_right₀ one_lt_two h).trans_le hbits
    have hleast : -1074 ≤ gridExponent num den := le_max_right _ _
    exact iff_of_true (hbeyond (by omega)) (hbeyond (by omega))

end Grid

/-- A ratio stays positive if it lies beyond one half of the least positive number. -/
theorem isPositive_ofRatio_iff {num den : Nat} (hden : 0 < den) {negative : Bool} :
    (ofRatio negative num den).IsPositive ↔ negative = false ∧ (2 : ℚ) ^ (-1075 : Int) < num / den := by
  rcases Nat.eq_zero_or_pos num with rfl | hnum
  · rw [Nat.cast_zero, zero_div]
    simp [ofRatio, zero, IsPositive, worth_pos_iff]
  rw [← gridPoint_ne_zero_iff hnum hden, ofRatio_eq hnum negative]
  split
  · next hcarry => split <;> simp [IsPositive, worth_pos_iff, hcarry]
  · split
    · next hlarge =>
      have hne : gridPoint num den ≠ 0 := by
        rw [gridPoint_ne_zero_iff hnum hden]
        have hbits := (grid_spec hnum hden).2.resolve_left (by omega)
        exact (zpow_lt_zpow_right₀ one_lt_two (by omega)).trans_le hbits
      simp [IsPositive, hne]
    · simp [IsPositive, worth_pos_iff]

/-! ## Rounding an integer -/

/-- An integer has no number nearest to it from the same middle on. -/
theorem ofInt?_eq_none_iff {n : Int} : ofInt? n = none ↔ leastTooLarge ≤ n.natAbs := by
  have hratio : (∃ sign, ofRatio (n < 0) n.natAbs 1 = .infinite sign) ↔ leastTooLarge ≤ n.natAbs := by
    rcases Nat.eq_zero_or_pos n.natAbs with hzero | hpos
    · have hleast : 0 < leastTooLarge := by
        unfold leastTooLarge
        positivity
      rw [hzero]
      exact iff_of_false (fun ⟨sign, h⟩ => nomatch h) (by omega)
    · simp only [ofRatio_eq_infinite_iff hpos Nat.one_pos, Nat.cast_one, div_one, Nat.cast_le]
      simp
  rw [← hratio]
  unfold ofInt?
  cases ofRatio (n < 0) n.natAbs 1 with
  | nan => simp
  | infinite sign => simp
  | finite negative significand exponent => simp

/-- A positive integer is nearest to a positive number, if to any. -/
lemma isPositive_of_ofInt? {n : Int} {x : Binary64} (hn : 0 < n) (h : ofInt? n = some x) : x.IsPositive := by
  have hratio : ofRatio (n < 0) n.natAbs 1 = x := by
    unfold ofInt? at h
    split at h
    · exact nomatch h
    · exact Option.some.inj h
  have hone : (1 : ℚ) ≤ n.natAbs := by exact_mod_cast Int.natAbs_pos.mpr hn.ne'
  have hleast : (2 : ℚ) ^ (-1075 : Int) < 1 := zpow_lt_one_of_neg₀ one_lt_two (by decide)
  rw [← hratio, isPositive_ofRatio_iff Nat.one_pos, Nat.cast_one, div_one]
  exact ⟨decide_eq_false hn.not_gt, hleast.trans_le hone⟩

end Counterpart.Number.Binary64
