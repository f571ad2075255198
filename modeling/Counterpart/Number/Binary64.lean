import Counterpart.Text.Quoted

/-!
# Binary64 numbers

The floating-point numbers of 64 bits, as exact values.  A finite number is a significand times a power of
two; conversion to this form rounds to the nearest one, and a half goes to the even significand.  All of it
is arithmetic on natural numbers.
-/

namespace Counterpart.Number

/-- A floating-point number.  In `finite` the value is `significand * 2 ^ exponent`, with a significand below
`2 ^ 53` that is at least `2 ^ 52` unless the exponent is the least one, -1074. -/
inductive Binary64
  | nan
  | infinite (negative : Bool)
  | finite (negative : Bool) (significand : Nat) (exponent : Int)
deriving Repr, DecidableEq

namespace Binary64

/-- The zero with a sign. -/
def zero (negative : Bool) : Binary64 := .finite negative 0 (-1074)

/-- The quotient to the nearest integer; a half goes to the even one. -/
def roundDiv (num den : Nat) : Nat :=
  let q := num / den
  let r := num % den
  if 2 * r < den then q
  else if den < 2 * r then q + 1
  else if q % 2 = 0 then q else q + 1

/-- `num / den` as a fraction of `2 ^ exponent`. -/
def scaled (num den : Nat) (exponent : Int) : Nat × Nat :=
  match exponent with
  | .ofNat e => (num, den * Nat.pow 2 e)
  | .negSucc e => (num * Nat.pow 2 (e + 1), den)

/-- The greatest `k` with `2 ^ k ≤ num / den`. -/
def binaryExponent (num den : Nat) : Int :=
  let k : Int := (num.log2 : Int) - den.log2
  let (n, d) := scaled num den k
  if d ≤ n then k else k - 1

/-- The number nearest to `num / den`, with a sign. -/
def ofRatio (negative : Bool) (num den : Nat) : Binary64 :=
  if num = 0 then zero negative
  else
    let exponent := max (binaryExponent num den - 52) (-1074)
    let (n, d) := scaled num den exponent
    let significand := roundDiv n d
    let (significand, exponent) :=
      if significand = Nat.pow 2 53 then (Nat.pow 2 52, exponent + 1) else (significand, exponent)
    if 971 < exponent then .infinite negative else .finite negative significand exponent

/-- The number nearest to an integer; none if that lies beyond the finite ones. -/
def ofInt? (n : Int) : Option Binary64 :=
  match ofRatio (n < 0) n.natAbs 1 with
  | .infinite _ => none
  | x => some x

/-- The number nearest to the decimal digits `digits`, first digit first, times `10 ^ exponent`.  Far beyond
the range of finite numbers no power is computed. -/
def ofDecimal (negative : Bool) (digits : List Nat) (exponent : Int) : Binary64 :=
  let digits := digits.dropWhile (· = 0)
  let size := exponent + digits.length
  if digits.isEmpty then zero negative
  else if 400 < size then .infinite negative
  else if size < -400 then zero negative
  else
    let value := digits.foldl (fun n d => 10 * n + d) 0
    match exponent with
    | .ofNat e => ofRatio negative (value * Nat.pow 10 e) 1
    | .negSucc e => ofRatio negative value (Nat.pow 10 (e + 1))

/-- Whether a number is at most zero.  No comparison holds of a number that is none. -/
def isNonPositive : Binary64 → Bool
  | .nan => false
  | .infinite negative => negative
  | .finite negative significand _ => negative || significand = 0

/-- The bits of a number: sign, eleven bits of exponent, 52 bits of significand. -/
def bits : Binary64 → Nat
  | .nan => 0x7FF8000000000000
  | .infinite negative => (if negative then Nat.pow 2 63 else 0) + 0x7FF0000000000000
  | .finite negative significand exponent =>
    (if negative then Nat.pow 2 63 else 0) +
      if significand < Nat.pow 2 52 then significand
      else (exponent + 1075).toNat * Nat.pow 2 52 + (significand - Nat.pow 2 52)

/-- The bits as sixteen hexadecimal digits. -/
def bitsHex (x : Binary64) : Text := Text.hexDigits 16 x.bits

/-- Fifteen. -/
example : bitsHex (ofRatio false 15 1) = "402e000000000000".toList := by decide +kernel

/-- The least positive number is nearest to a tenth less than itself. -/
example : ofDecimal false [4, 9] (-325) = .finite false 1 (-1074) := by decide +kernel

end Binary64

end Counterpart.Number
