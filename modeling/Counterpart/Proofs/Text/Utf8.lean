import Counterpart.Text.Utf8
import Mathlib.Tactic.Lemma

/-!
# UTF-8 there and back

The bytes of a text are read as that text, and none of them is zero unless the text has a NUL.

* `begin?_two`, `begin?_three` and `begin?_four`: what the first byte of a longer character promises;
* `unitsFrom_char`: the bytes of one character are read as that character;
* `decode?_encode` and `decodeSurrogates?_encode`: the bytes of a text.
-/

namespace Counterpart.Text.Utf8

variable {surrogates : Bool}

/-! ## First bytes -/

lemma lt_ofNat_iff {n : Nat} (h : n < 256) (b : UInt8) : UInt8.ofNat n < b ↔ n < b.toNat := by
  rw [UInt8.lt_iff_toNat_lt, UInt8.toNat_ofNat_of_lt' h]

lemma ofNat_eq_iff {n : Nat} (h : n < 256) (b : UInt8) : UInt8.ofNat n = b ↔ n = b.toNat := by
  rw [← UInt8.toNat_inj, UInt8.toNat_ofNat_of_lt' h]

/-- The first byte of a character of two bytes. -/
lemma begin?_two {n : Nat} (hlow : 0xC2 ≤ n) (hhigh : n < 0xE0) :
    begin? surrogates (UInt8.ofNat n) = some ⟨n - 0xC0, 1, 0x80, 0xBF⟩ := by
  have hbyte : n < 256 := by omega
  unfold begin?
  rw [if_neg (by rw [lt_ofNat_iff hbyte]; exact Nat.not_lt.mpr hlow), if_pos (by rw [lt_ofNat_iff hbyte]; exact hhigh),
    UInt8.toNat_ofNat_of_lt' hbyte]

/-- The first byte of a character of three bytes, and a second byte that may follow it. -/
lemma begin?_three {n second : Nat} (hlow : 0xE0 ≤ n) (hhigh : n < 0xF0) (hsecond : 0x80 ≤ second ∧ second ≤ 0xBF)
    (hoverlong : n = 0xE0 → 0xA0 ≤ second) (hsurrogate : n = 0xED → second ≤ 0x9F) :
    ∃ low high, begin? surrogates (UInt8.ofNat n) = some ⟨n - 0xE0, 2, low, high⟩ ∧
      low.toNat ≤ second ∧ second ≤ high.toNat := by
  have hbyte : n < 256 := by omega
  obtain ⟨hsecond, hsecond'⟩ := hsecond
  unfold begin?
  rw [if_neg (by rw [lt_ofNat_iff hbyte]; simp; omega), if_neg (by rw [lt_ofNat_iff hbyte]; simp; omega)]
  split
  · next hfirst =>
    rw [ofNat_eq_iff hbyte] at hfirst
    exact ⟨0xA0, 0xBF, by simp [hfirst], hoverlong hfirst, hsecond'⟩
  · split
    · next hfirst =>
      rw [Bool.and_eq_true, decide_eq_true_eq, ofNat_eq_iff hbyte] at hfirst
      exact ⟨0x80, 0x9F, by simp [hfirst.1], hsecond, hsurrogate hfirst.1⟩
    · rw [if_pos (by rw [lt_ofNat_iff hbyte]; exact hhigh), UInt8.toNat_ofNat_of_lt' hbyte]
      exact ⟨0x80, 0xBF, rfl, hsecond, hsecond'⟩

/-- The first byte of a character of four bytes, and a second byte that may follow it. -/
lemma begin?_four {n second : Nat} (hlow : 0xF0 ≤ n) (hhigh : n ≤ 0xF4) (hsecond : 0x80 ≤ second ∧ second ≤ 0xBF)
    (hoverlong : n = 0xF0 → 0x90 ≤ second) (hlast : n = 0xF4 → second ≤ 0x8F) :
    ∃ low high, begin? surrogates (UInt8.ofNat n) = some ⟨n - 0xF0, 3, low, high⟩ ∧
      low.toNat ≤ second ∧ second ≤ high.toNat := by
  have hbyte : n < 256 := by omega
  obtain ⟨hsecond, hsecond'⟩ := hsecond
  unfold begin?
  rw [if_neg (by rw [lt_ofNat_iff hbyte]; simp; omega), if_neg (by rw [lt_ofNat_iff hbyte]; simp; omega),
    if_neg (by rw [ofNat_eq_iff hbyte]; simp; omega), if_neg (by simp [ofNat_eq_iff hbyte]; omega),
    if_neg (by rw [lt_ofNat_iff hbyte]; simp; omega)]
  split
  · next hfirst =>
    rw [ofNat_eq_iff hbyte] at hfirst
    exact ⟨0x90, 0xBF, by simp [hfirst], hoverlong hfirst, hsecond'⟩
  · next hfirst =>
    rw [ofNat_eq_iff hbyte] at hfirst
    split
    · next hnotLast =>
      rw [lt_ofNat_iff hbyte] at hnotLast
      exact ⟨0x80, 0xBF, by rw [UInt8.toNat_ofNat_of_lt' hbyte], hsecond, hsecond'⟩
    · next hnotLess =>
      rw [lt_ofNat_iff hbyte] at hnotLess
      have heq : n = 0xF4 := by
        simp at hnotLess
        omega
      rw [if_pos (by rw [ofNat_eq_iff hbyte, heq]; rfl)]
      exact ⟨0x80, 0x8F, by simp [heq], hsecond, hlast heq⟩

/-! ## Characters -/

lemma scalar_val (c : Char) : scalar c.val.toNat = c := by
  unfold scalar
  rw [if_pos c.valid]
  exact Char.ofNat_toNat c

lemma unitsFrom_first {n : Nat} {begun : Begun} (hlow : 0x80 ≤ n) (hbyte : n < 256)
    (h : begin? surrogates (UInt8.ofNat n) = some begun) (out : List (Option Char)) (rest : Bytes) :
    unitsFrom surrogates none out (UInt8.ofNat n :: rest) = unitsFrom surrogates (some begun) out rest := by
  have hfresh : fresh surrogates out (UInt8.ofNat n) = (some begun, out) := by
    unfold fresh
    rw [if_neg (by rw [lt_ofNat_iff hbyte]; exact Nat.not_lt.mpr hlow), h]
  rw [unitsFrom, step, hfresh]

/-- One byte further inside a character. -/
lemma step_begun {begun : Begun} {n : Nat} (hbyte : n < 256) (hlow : begun.low.toNat ≤ n)
    (hhigh : n ≤ begun.high.toNat) (out : List (Option Char)) :
    step surrogates (some begun) out (UInt8.ofNat n) =
      if begun.missing ≤ 1 then (none, some (scalar (begun.bits * 64 + (n - 0x80))) :: out)
      else (some ⟨begun.bits * 64 + (n - 0x80), begun.missing - 1, 0x80, 0xBF⟩, out) := by
  have hrange : begun.low ≤ UInt8.ofNat n ∧ UInt8.ofNat n ≤ begun.high := by
    simp only [UInt8.le_iff_toNat_le, UInt8.toNat_ofNat_of_lt' hbyte]
    exact ⟨hlow, hhigh⟩
  unfold step
  dsimp only
  rw [if_pos hrange, UInt8.toNat_ofNat_of_lt' hbyte]

lemma unitsFrom_middle {bits missing n : Nat} {low high : UInt8} (hbyte : n < 256) (hlow : low.toNat ≤ n)
    (hhigh : n ≤ high.toNat) (out : List (Option Char)) (rest : Bytes) :
    unitsFrom surrogates (some ⟨bits, missing + 2, low, high⟩) out (UInt8.ofNat n :: rest)
      = unitsFrom surrogates (some ⟨bits * 64 + (n - 0x80), missing + 1, 0x80, 0xBF⟩) out rest := by
  rw [unitsFrom, step_begun hbyte hlow hhigh, if_neg (by simp)]
  rfl

lemma unitsFrom_last {bits n : Nat} {low high : UInt8} (hbyte : n < 256) (hlow : low.toNat ≤ n)
    (hhigh : n ≤ high.toNat) (out : List (Option Char)) (rest : Bytes) :
    unitsFrom surrogates (some ⟨bits, 1, low, high⟩) out (UInt8.ofNat n :: rest)
      = unitsFrom surrogates none (some (scalar (bits * 64 + (n - 0x80))) :: out) rest := by
  rw [unitsFrom, step_begun hbyte hlow hhigh, if_pos (Nat.le_refl 1)]

/-- The bytes of a character are read as that character. -/
lemma unitsFrom_char (c : Char) (out : List (Option Char)) (rest : Bytes) :
    unitsFrom surrogates none out (String.utf8EncodeChar c ++ rest)
      = unitsFrom surrogates none (some c :: out) rest := by
  have hscalar := scalar_val c
  have hvalid : c.val.toNat < 0xD800 ∨ 0xDFFF < c.val.toNat ∧ c.val.toNat < 0x110000 := c.valid
  unfold String.utf8EncodeChar
  dsimp only
  generalize c.val.toNat = v at hscalar hvalid
  split
  · next hone =>
    have hbyte : v < 256 := by omega
    have hchar : Char.ofNat v = c := by
      rw [← hscalar, scalar, if_pos hvalid]
    rw [List.singleton_append, unitsFrom, step, fresh,
      if_pos (by rw [lt_ofNat_iff hbyte]; exact Nat.lt_succ_of_le hone), UInt8.toNat_ofNat_of_lt' hbyte, hchar]
  · split
    · next hone htwo =>
      have hbits : (v / 64 % 32 + 192 - 192) * 64 + (v % 64 + 128 - 128) = v := by omega
      simp only [List.cons_append, List.nil_append]
      rw [unitsFrom_first (by omega) (by omega) (begin?_two (by omega) (by omega)),
        unitsFrom_last (by omega) (by simp) (by simp; omega), hbits, hscalar]
    · split
      · next hone htwo hthree =>
        have hbits : ((v / 4096 % 16 + 224 - 224) * 64 + (v / 64 % 64 + 128 - 128)) * 64 + (v % 64 + 128 - 128)
            = v := by omega
        have hfirst : ∃ low high, begin? surrogates (UInt8.ofNat (v / 4096 % 16 + 224))
            = some ⟨v / 4096 % 16 + 224 - 224, 2, low, high⟩ ∧
              low.toNat ≤ v / 64 % 64 + 128 ∧ v / 64 % 64 + 128 ≤ high.toNat :=
          begin?_three (by omega) (by omega) (by omega) (by omega) (by omega)
        obtain ⟨low, high, hbegin, hlow, hhigh⟩ := hfirst
        simp only [List.cons_append, List.nil_append]
        rw [unitsFrom_first (by omega) (by omega) hbegin, unitsFrom_middle (by omega) hlow hhigh,
          unitsFrom_last (by omega) (by simp) (by simp; omega), hbits, hscalar]
      · next hone htwo hthree =>
        have hbits : (((v / 262144 % 8 + 240 - 240) * 64 + (v / 4096 % 64 + 128 - 128)) * 64
            + (v / 64 % 64 + 128 - 128)) * 64 + (v % 64 + 128 - 128) = v := by omega
        have hfirst : ∃ low high, begin? surrogates (UInt8.ofNat (v / 262144 % 8 + 240))
            = some ⟨v / 262144 % 8 + 240 - 240, 3, low, high⟩ ∧
              low.toNat ≤ v / 4096 % 64 + 128 ∧ v / 4096 % 64 + 128 ≤ high.toNat :=
          begin?_four (by omega) (by omega) (by omega) (by omega) (by omega)
        obtain ⟨low, high, hbegin, hlow, hhigh⟩ := hfirst
        simp only [List.cons_append, List.nil_append]
        rw [unitsFrom_first (by omega) (by omega) hbegin, unitsFrom_middle (by omega) hlow hhigh,
          unitsFrom_middle (by omega) (by simp) (by simp; omega),
          unitsFrom_last (by omega) (by simp) (by simp; omega), hbits, hscalar]

/-! ## Texts -/

lemma unitsFrom_encode (t : Text) (out : List (Option Char)) :
    unitsFrom surrogates none out (encode t) = out.reverse ++ t.map some := by
  induction t generalizing out with
  | nil => simp [encode, unitsFrom]
  | cons c t ih =>
    show unitsFrom surrogates none out (String.utf8EncodeChar c ++ encode t) = _
    rw [unitsFrom_char, ih]
    simp

lemma mapM_id_some (t : Text) : (t.map some).mapM id = some t := by
  rw [List.mapM_map]
  induction t with
  | nil => rfl
  | cons c t ih => simp_all [List.mapM_cons]

/-- The bytes of a text are read as that text. -/
theorem decode?_encode (t : Text) : decode? (encode t) = some t := by
  unfold decode? units
  rw [unitsFrom_encode, List.reverse_nil, List.nil_append, mapM_id_some]

/-- So they are where surrogates are let in. -/
theorem decodeSurrogates?_encode (t : Text) : decodeSurrogates? (encode t) = some t := by
  unfold decodeSurrogates?
  rw [unitsFrom_encode, List.reverse_nil, List.nil_append, mapM_id_some]

/-- Only a NUL is written with a zero byte. -/
lemma zero_notMem_char {c : Char} (h : c ≠ '\x00') : (0 : UInt8) ∉ String.utf8EncodeChar c := by
  have hpositive : 0 < c.val.toNat := by
    rw [Nat.pos_iff_ne_zero]
    exact fun hnul => h (Char.ext (UInt32.toNat_inj.mp hnul))
  have hbyte : ∀ n, 0 < n → n < 256 → (0 : UInt8) ≠ UInt8.ofNat n := by
    intro n hn hlt heq
    rw [eq_comm, ofNat_eq_iff hlt] at heq
    exact absurd heq (Nat.pos_iff_ne_zero.mp hn)
  unfold String.utf8EncodeChar
  dsimp only
  generalize c.val.toNat = v at hpositive
  split
  · simp only [List.mem_cons, List.not_mem_nil, or_false]
    exact hbyte v hpositive (by omega)
  · split
    · simp only [List.mem_cons, List.not_mem_nil, or_false, not_or]
      exact ⟨hbyte _ (by omega) (by omega), hbyte _ (by omega) (by omega)⟩
    · split
      · simp only [List.mem_cons, List.not_mem_nil, or_false, not_or]
        exact ⟨hbyte _ (by omega) (by omega), hbyte _ (by omega) (by omega), hbyte _ (by omega) (by omega)⟩
      · simp only [List.mem_cons, List.not_mem_nil, or_false, not_or]
        exact ⟨hbyte _ (by omega) (by omega), hbyte _ (by omega) (by omega), hbyte _ (by omega) (by omega),
          hbyte _ (by omega) (by omega)⟩

lemma zero_notMem_encode {t : Text} (h : '\x00' ∉ t) : (0 : UInt8) ∉ encode t := by
  intro hzero
  obtain ⟨c, hc, hbyte⟩ := List.mem_flatMap.mp hzero
  exact zero_notMem_char (ne_of_mem_of_not_mem hc h) hbyte

/-- A text that begins with an ASCII character begins with its byte. -/
lemma encode_cons_of_lt {c : Char} (h : c.toNat < 0x80) (t : Text) :
    encode (c :: t) = UInt8.ofNat c.toNat :: encode t := by
  show String.utf8EncodeChar c ++ encode t = _
  unfold String.utf8EncodeChar
  dsimp only
  rw [if_pos (show c.val.toNat ≤ 127 from Nat.le_of_lt_succ h)]
  rfl

end Counterpart.Text.Utf8
