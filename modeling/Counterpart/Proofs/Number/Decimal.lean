import Counterpart.Proofs.Json.Grammar
import Counterpart.Proofs.Number.Rounding
import Mathlib.Data.Int.Log
import Mathlib.Data.Rat.Floor

/-!
# The number nearest to a rational

Rounding looks at what a ratio is worth, not at the two numbers that it is made of.

* `nearest` and `ofRatio_eq_nearest`: the number that a rational is rounded to;
* `abs_nearest_sub_le`: no number is nearer to it;
* `isPositive_nearest_iff`: it is positive beyond one half of the least positive number;
* `ofDecimal_eq_nearest`: what decimal digits and a power of ten become, also where no power is computed.
-/

namespace Counterpart.Number.Binary64

open Json (decimal)

/-! ## What a ratio is worth -/

section Congr

variable {num den num' den' : Nat} (hden : 0 < den) (hden' : 0 < den') (h : (num : ℚ) / den = num' / den')
include hden hden' h

/-- A rounded quotient depends on the ratio only. -/
lemma roundDiv_congr : roundDiv num den = roundDiv num' den' :=
  eq_of_forall_le_iff fun m => by rw [le_roundDiv_iff hden, le_roundDiv_iff hden', h]

omit hden hden' h in
/-- The exponent is the greatest power of two that is not above the ratio. -/
lemma binaryExponent_eq (hnum : 0 < num) (hden : 0 < den) : binaryExponent num den = Int.log 2 ((num : ℚ) / den) := by
  obtain ⟨hlow, hhigh⟩ := binaryExponent_spec hnum hden
  have hpos : (0 : ℚ) < num / den := by positivity
  apply le_antisymm
  · exact (Int.zpow_le_iff_le_log one_lt_two hpos).mp (by exact_mod_cast hlow)
  · exact Int.lt_add_one_iff.mp ((Int.lt_zpow_iff_log_lt one_lt_two hpos).mp (by exact_mod_cast hhigh))

/-- On one grid the nearest point depends on the ratio only. -/
lemma gridPoint_congr (hexponent : gridExponent num den = gridExponent num' den') :
    gridPoint num den = gridPoint num' den' := by
  unfold gridPoint
  rw [hexponent]
  apply roundDiv_congr (scaled_pos hden _) (scaled_pos hden' _)
  rw [scaled_div, scaled_div, h]

/-- Ratios of one worth are rounded to one number. -/
theorem ofRatio_congr (negative : Bool) : ofRatio negative num den = ofRatio negative num' den' := by
  have hdenQ : (den : ℚ) ≠ 0 := by positivity
  have hdenQ' : (den' : ℚ) ≠ 0 := by positivity
  have hzero : num = 0 ↔ num' = 0 := by
    rw [div_eq_div_iff hdenQ hdenQ'] at h
    constructor <;> rintro rfl <;> simpa [hdenQ, hdenQ', eq_comm] using h
  rcases Nat.eq_zero_or_pos num with hnum | hnum
  · unfold ofRatio
    rw [if_pos hnum, if_pos (hzero.mp hnum)]
  · have hnum' : 0 < num' := Nat.pos_of_ne_zero (mt hzero.mpr hnum.ne')
    have hexponent : gridExponent num den = gridExponent num' den' := by
      unfold gridExponent
      rw [binaryExponent_eq hnum hden, binaryExponent_eq hnum' hden', h]
    rw [ofRatio_eq hnum, ofRatio_eq hnum', gridPoint_congr hden hden' h hexponent, hexponent]

end Congr

/-! ## The nearest number -/

/-- The number nearest to a rational that is not negative, with a sign. -/
def nearest (negative : Bool) (q : ℚ) : Binary64 := ofRatio negative q.num.toNat q.den

lemma toNat_num_div_den {q : ℚ} (hq : 0 ≤ q) : (q.num.toNat : ℚ) / q.den = q := by
  have hnum : ((q.num.toNat : Int) : ℚ) = q.num := congrArg _ (Int.toNat_of_nonneg (Rat.num_nonneg.mpr hq))
  rw [← Int.cast_natCast, hnum, Rat.num_div_den]

/-- A ratio is rounded as the number that it is. -/
lemma ofRatio_eq_nearest (negative : Bool) (num : Nat) {den : Nat} (hden : 0 < den) :
    ofRatio negative num den = nearest negative (num / den) :=
  ofRatio_congr hden (Rat.den_pos _) (toNat_num_div_den (by positivity)).symm negative

/-- Beyond one half of the least positive number a rational stays positive. -/
theorem isPositive_nearest_iff {negative : Bool} {q : ℚ} (hq : 0 ≤ q) :
    (nearest negative q).IsPositive ↔ negative = false ∧ (2 : ℚ) ^ (-1075 : Int) < q := by
  unfold nearest
  rw [isPositive_ofRatio_iff q.den_pos, toNat_num_div_den hq]

/-- What is too large becomes infinite. -/
lemma nearest_eq_infinite {negative : Bool} {q : ℚ} (h : (leastTooLarge : ℚ) ≤ q) (hq : 0 < q) :
    nearest negative q = .infinite negative := by
  have hnum : 0 < q.num.toNat := Int.lt_toNat.mpr (Rat.num_pos.mpr hq)
  exact (ofRatio_eq_infinite_iff hnum q.den_pos).mpr ⟨rfl, by rwa [toNat_num_div_den hq.le]⟩

/-- What is no more than half of the smallest number becomes zero. -/
lemma nearest_eq_zero {negative : Bool} {q : ℚ} (h : q ≤ (2 : ℚ) ^ (-1075 : Int)) :
    nearest negative q = zero negative := by
  rcases le_or_gt q 0 with hq | hq
  · unfold nearest ofRatio
    rw [if_pos (Int.toNat_eq_zero.mpr (Rat.num_nonpos.mpr hq))]
  · have hnum : 0 < q.num.toNat := Int.lt_toNat.mpr (Rat.num_pos.mpr hq)
    have hworth := toNat_num_div_den hq.le
    have hpoint : gridPoint q.num.toNat q.den = 0 := by
      by_contra hne
      rw [← ne_eq, gridPoint_ne_zero_iff hnum q.den_pos, hworth] at hne
      exact hne.not_ge h
    have hexponent : gridExponent q.num.toNat q.den = -1074 := by
      rcases (grid_spec hnum q.den_pos).2 with hleast | hbits
      · exact hleast
      · rw [hworth] at hbits
        have hpower := (zpow_le_zpow_iff_right₀ (one_lt_two (α := ℚ))).mp (hbits.trans h)
        have hleast : -1074 ≤ gridExponent q.num.toNat q.den := le_max_right _ _
        omega
    unfold nearest
    rw [ofRatio_eq hnum, hpoint, hexponent, if_neg (by decide), if_neg (by decide)]
    rfl

section Nearest

variable {num den : Nat} (hden : 0 < den)
include hden

/-- No point of its grid is nearer to a ratio than that to which it is rounded. -/
lemma abs_gridPoint_sub_le (m : Nat) :
    |(gridPoint num den : ℚ) - num / den / 2 ^ gridExponent num den| ≤
      |(m : ℚ) - num / den / 2 ^ gridExponent num den| := by
  have habove : (gridPoint num den : ℚ) ≤ num / den / 2 ^ gridExponent num den + 1 / 2 := by
    rcases (le_gridPoint_iff hden _).mp le_rfl with hlt | ⟨heq, -⟩
    · exact hlt.le
    · exact heq.le
  have hbelow : (num : ℚ) / den / 2 ^ gridExponent num den + 1 / 2 ≤ gridPoint num den + 1 := by
    have hnot := mt (le_gridPoint_iff hden (gridPoint num den + 1)).mpr (Nat.not_succ_le_self _)
    push_cast at hnot
    exact not_lt.mp fun hlt => hnot (.inl hlt)
  generalize (num : ℚ) / den / 2 ^ gridExponent num den = r at habove hbelow ⊢
  have hhalf : |(gridPoint num den : ℚ) - r| ≤ 1 / 2 := abs_le.mpr ⟨by linarith, by linarith⟩
  rcases Nat.lt_trichotomy m (gridPoint num den) with hm | rfl | hm
  · have hmQ : (m : ℚ) + 1 ≤ gridPoint num den := by exact_mod_cast hm
    rw [abs_sub_comm (m : ℚ)]
    exact hhalf.trans (le_abs.mpr (.inl (by linarith)))
  · rfl
  · have hmQ : (gridPoint num den : ℚ) + 1 ≤ m := by exact_mod_cast hm
    exact hhalf.trans (le_abs.mpr (.inl (by linarith)))

/-- The same, on the grid itself. -/
lemma abs_gridPoint_mul_sub_le (m : Nat) :
    |(gridPoint num den : ℚ) * 2 ^ gridExponent num den - num / den| ≤
      |(m : ℚ) * 2 ^ gridExponent num den - num / den| := by
  have hpower : (0 : ℚ) < 2 ^ gridExponent num den := by positivity
  have hfactor (n : Nat) : |(n : ℚ) * 2 ^ gridExponent num den - num / den| =
      |(n : ℚ) - num / den / 2 ^ gridExponent num den| * 2 ^ gridExponent num den := by
    rw [← abs_of_pos hpower, ← abs_mul, abs_of_pos hpower, sub_mul, div_mul_cancel₀ _ hpower.ne']
  rw [hfactor, hfactor]
  exact mul_le_mul_of_nonneg_right (abs_gridPoint_sub_le hden m) hpower.le

end Nearest

/-- A finite number to which a rational is rounded is worth the point of its grid. -/
lemma gridPoint_mul_eq {negative sign : Bool} {num den significand : Nat} {exponent : Int} (hnum : 0 < num)
    (h : ofRatio negative num den = .finite sign significand exponent) :
    (significand : ℚ) * 2 ^ exponent = gridPoint num den * 2 ^ gridExponent num den := by
  rw [ofRatio_eq hnum] at h
  split at h
  · next hcarry =>
    split at h
    · exact nomatch h
    · obtain ⟨-, rfl, rfl⟩ := Binary64.finite.inj h
      rw [hcarry, zpow_add_one₀ two_ne_zero, Nat.cast_pow, Nat.cast_pow, Nat.cast_ofNat]
      ring
  · split at h
    · exact nomatch h
    · obtain ⟨-, rfl, rfl⟩ := Binary64.finite.inj h
      rfl

/-- No finite number is nearer to a rational than the one to which it is rounded. -/
theorem abs_nearest_sub_le {negative sign : Bool} {q : ℚ} (hq : 0 < q) {significand : Nat} {exponent : Int}
    (h : nearest negative q = .finite sign significand exponent) {other : Nat} (hother : other < 2 ^ 53) {power : Int}
    (hpower : -1074 ≤ power) : |(significand : ℚ) * 2 ^ exponent - q| ≤ |(other : ℚ) * 2 ^ power - q| := by
  have hnum : 0 < q.num.toNat := Int.lt_toNat.mpr (Rat.num_pos.mpr hq)
  have hgrid := @abs_gridPoint_mul_sub_le q.num.toNat q.den q.den_pos
  have hspec := (grid_spec hnum q.den_pos).2
  rw [gridPoint_mul_eq hnum h]
  rw [toNat_num_div_den hq.le] at hgrid hspec
  generalize gridExponent q.num.toNat q.den = g at hgrid hspec ⊢
  rcases le_or_gt g power with hfine | hcoarse
  · -- the other number lies on the grid
    obtain ⟨k, rfl⟩ := Int.le.dest hfine
    have hon : (other : ℚ) * 2 ^ (g + k) = ((other * 2 ^ k : Nat) : ℚ) * 2 ^ g := by
      rw [zpow_add₀ two_ne_zero, zpow_natCast, Nat.cast_mul, Nat.cast_pow, Nat.cast_ofNat]
      ring
    rw [hon]
    exact hgrid _
  · -- the other number lies on a finer grid, so below the point `2 ^ 52` of this one
    have hbits : (2 : ℚ) ^ (g + 52) ≤ q := hspec.resolve_left (by omega)
    have hpoint : ((2 ^ 52 : Nat) : ℚ) * 2 ^ g = 2 ^ (g + 52) := by
      rw [zpow_add₀ two_ne_zero, Nat.cast_pow, Nat.cast_ofNat, ← zpow_natCast, mul_comm]
      rfl
    have hbelow : (other : ℚ) * 2 ^ power ≤ 2 ^ (g + 52) :=
      calc (other : ℚ) * 2 ^ power ≤ 2 ^ (53 : Int) * 2 ^ power := by
            gcongr
            exact_mod_cast hother.le
        _ = 2 ^ (53 + power) := (zpow_add₀ two_ne_zero 53 power).symm
        _ ≤ 2 ^ (g + 52) := zpow_le_zpow_right₀ one_le_two (by omega)
    have hle := hgrid (2 ^ 52)
    rw [hpoint, abs_sub_comm, abs_sub_comm ((2 : ℚ) ^ (g + 52)), abs_of_nonneg (sub_nonneg.mpr hbits)] at hle
    rw [abs_sub_comm, abs_sub_comm ((other : ℚ) * 2 ^ power)]
    exact hle.trans (le_abs.mpr (.inl (by linarith)))

/-! ## Decimal digits -/

/-- Digits behind a number make it less than the next number with as many zeros. -/
lemma foldl_digits_bounds {digits : List Nat} (h : ∀ d ∈ digits, d < 10) (n : Nat) :
    n * 10 ^ digits.length ≤ digits.foldl (fun n d => 10 * n + d) n ∧
      digits.foldl (fun n d => 10 * n + d) n < (n + 1) * 10 ^ digits.length := by
  induction digits generalizing n with
  | nil => simp
  | cons d digits ih =>
    have hd : d < 10 := h d List.mem_cons_self
    obtain ⟨hlow, hhigh⟩ := ih (fun e he => h e (List.mem_cons_of_mem d he)) (10 * n + d)
    rw [List.foldl_cons, List.length_cons, pow_succ']
    constructor
    · calc n * (10 * 10 ^ digits.length) = 10 * n * 10 ^ digits.length := by ring
        _ ≤ (10 * n + d) * 10 ^ digits.length := by gcongr; omega
        _ ≤ _ := hlow
    · calc _ < (10 * n + d + 1) * 10 ^ digits.length := hhigh
        _ ≤ (10 * (n + 1)) * 10 ^ digits.length := by gcongr; omega
        _ = (n + 1) * (10 * 10 ^ digits.length) := by ring

/-- Zeros in front make no difference to a value. -/
lemma decimal_dropWhile (digits : List Nat) : decimal (digits.dropWhile (· = 0)) = decimal digits := by
  induction digits with
  | nil => rfl
  | cons d digits ih =>
    by_cases hd : d = 0
    · rw [List.dropWhile_cons_of_pos (by simpa using hd), ih, hd]
      rfl
    · rw [List.dropWhile_cons_of_neg (by simpa using hd)]

/-- Decimal digits of which the first is no zero are worth as many powers of ten as they are. -/
lemma decimal_bounds {d : Nat} {digits : List Nat} (hd : d ≠ 0) (h : ∀ e ∈ d :: digits, e < 10) :
    10 ^ digits.length ≤ decimal (d :: digits) ∧ decimal (d :: digits) < 10 ^ (digits.length + 1) := by
  have hdigit : d < 10 := h d List.mem_cons_self
  obtain ⟨hlow, hhigh⟩ := foldl_digits_bounds (fun e he => h e (List.mem_cons_of_mem d he)) d
  have hdecimal : decimal (d :: digits) = digits.foldl (fun n d => 10 * n + d) d := by
    unfold decimal
    rw [List.foldl_cons, Nat.mul_zero, Nat.zero_add]
  rw [hdecimal]
  constructor
  · exact (Nat.le_mul_of_pos_left _ (Nat.pos_of_ne_zero hd)).trans hlow
  · rw [pow_succ']
    exact hhigh.trans_le (Nat.mul_le_mul_right _ hdigit)

/-- What has an exponent of four hundred is too large. -/
lemma leastTooLarge_le : (leastTooLarge : ℚ) ≤ 10 ^ (400 : Int) := by
  rw [leastTooLarge_eq]
  calc ((2 : ℚ) ^ 53 - 1 / 2) * 2 ^ (971 : Int) ≤ 2 ^ (53 : Int) * 2 ^ (971 : Int) := by gcongr; norm_num
    _ = 2 ^ (1024 : Int) := (zpow_add₀ two_ne_zero 53 971).symm
    _ ≤ 2 ^ (3 * 400 : Int) := zpow_le_zpow_right₀ one_le_two (by decide)
    _ = 8 ^ (400 : Int) := by rw [zpow_mul]; norm_num
    _ ≤ 10 ^ (400 : Int) := zpow_le_zpow_left₀ (by decide) (by norm_num) (by norm_num)

/-- What has one of minus four hundred is too small. -/
lemma ten_zpow_le : (10 : ℚ) ^ (-400 : Int) ≤ 2 ^ (-1075 : Int) :=
  calc (10 : ℚ) ^ (-400 : Int) = (10 ^ (400 : Int))⁻¹ := zpow_neg 10 400
    _ ≤ (8 ^ (400 : Int))⁻¹ := inv_anti₀ (by positivity) (zpow_le_zpow_left₀ (by decide) (by norm_num) (by norm_num))
    _ = 8 ^ (-400 : Int) := (zpow_neg 8 400).symm
    _ = 2 ^ (3 * -400 : Int) := by rw [zpow_mul]; norm_num
    _ ≤ 2 ^ (-1075 : Int) := zpow_le_zpow_right₀ one_le_two (by decide)

/-- Decimal digits become the number nearest to what they are worth, also far beyond the range of finite numbers. -/
theorem ofDecimal_eq_nearest (negative : Bool) {digits : List Nat} (h : ∀ d ∈ digits, d < 10) (exponent : Int) :
    ofDecimal negative digits exponent = nearest negative (decimal digits * 10 ^ exponent) := by
  rw [← decimal_dropWhile]
  have hsmall : ∀ d ∈ digits.dropWhile (· = 0), d < 10 := fun d hd => h d (List.dropWhile_sublist _ |>.mem hd)
  have hfirst : ∀ d rest, digits.dropWhile (· = 0) = d :: rest → d ≠ 0 := by
    intro d rest heq
    have hne : digits.dropWhile (· = 0) ≠ [] := heq ▸ List.cons_ne_nil d rest
    simpa [heq] using List.head_dropWhile_not (fun d => decide (d = 0)) hne
  unfold ofDecimal
  dsimp only
  generalize digits.dropWhile (· = 0) = digits at hsmall hfirst ⊢
  cases digits with
  | nil =>
    rw [if_pos List.isEmpty_nil]
    exact (nearest_eq_zero (by simp [decimal])).symm
  | cons d rest =>
    have hpower : (0 : ℚ) < 10 ^ exponent := by positivity
    obtain ⟨hlow, hhigh⟩ := decimal_bounds (hfirst d rest rfl) hsmall
    have hlowQ : (10 : ℚ) ^ (rest.length + exponent : Int) ≤ decimal (d :: rest) * 10 ^ exponent := by
      rw [zpow_add₀ (by norm_num), zpow_natCast]
      gcongr
      exact_mod_cast hlow
    have hhighQ : decimal (d :: rest) * 10 ^ exponent < (10 : ℚ) ^ (rest.length + 1 + exponent : Int) := by
      rw [zpow_add₀ (by norm_num)]
      gcongr
      exact_mod_cast hhigh
    rw [if_neg (by simp), List.length_cons]
    split
    · next hlarge =>
      refine (nearest_eq_infinite ?_ ?_).symm
      · refine leastTooLarge_le.trans (le_trans ?_ hlowQ)
        exact zpow_le_zpow_right₀ (by norm_num) (by push_cast at hlarge; omega)
      · exact lt_of_lt_of_le (by positivity) hlowQ
    · split
      · next hless =>
        refine (nearest_eq_zero ?_).symm
        refine hhighQ.le.trans (le_trans ?_ ten_zpow_le)
        exact zpow_le_zpow_right₀ (by norm_num) (by push_cast at hless; omega)
      · cases exponent with
        | ofNat e =>
          dsimp only
          rw [ofRatio_eq_nearest _ _ Nat.one_pos, Int.ofNat_eq_natCast, zpow_natCast]
          congr 1
          push_cast [Nat.pow_eq]
          rw [div_one]
          rfl
        | negSucc e =>
          dsimp only
          have hden : 0 < Nat.pow 10 (e + 1) := Nat.pow_pos (by decide)
          rw [ofRatio_eq_nearest _ _ hden, zpow_negSucc, ← div_eq_mul_inv]
          congr 1
          push_cast [Nat.pow_eq]
          rfl

end Counterpart.Number.Binary64
