import Counterpart.Number.Binary64

/-!
# Shortest decimal form

The fewest decimal digits that are nearest to a binary64 number, and their layout.  The numbers that are read
back as `x` form an interval around it; for one digit, two digits and so on, the two neighbours of `x` on that
decimal grid are tested against the interval, and the first grid with a hit gives the digits.
-/

namespace Counterpart.Number

/-- Decimal digits, first digit first and not zero, and the place of the point: the value is
`0.d₁d₂… * 10 ^ point`. -/
structure Decimal where
  digits : List Nat
  point : Int
deriving Repr, DecidableEq

namespace Shortest

/-- A positive number `value / unit` and the distances, in the same unit, to the ends of the interval of
numbers that are read back as it; `closed` says whether the ends belong to it. -/
structure Interval where
  value : Nat
  below : Nat
  above : Nat
  unit : Nat
  closed : Bool
deriving Repr

/-- The interval of `significand * 2 ^ exponent`.  It is narrower below a power of two. -/
def interval (significand : Nat) (exponent : Int) : Interval :=
  let below := if significand = Nat.pow 2 52 ∧ -1074 < exponent then 1 else 2
  let closed := significand % 2 = 0
  match exponent with
  | .ofNat e => ⟨significand * 4 * Nat.pow 2 e, below * Nat.pow 2 e, 2 * Nat.pow 2 e, 4, closed⟩
  | .negSucc e => ⟨significand * 4, below, 2, 4 * Nat.pow 2 (e + 1), closed⟩

/-- Whether `num / den` is read back as the number. -/
def Interval.holds (i : Interval) (num den : Nat) : Bool :=
  let x := num * i.unit
  let low := (i.value - i.below) * den
  let high := (i.value + i.above) * den
  if i.closed then low ≤ x && x ≤ high else low < x && x < high

/-- The decimal digits of `n`, none for zero. -/
def digitsOf (n : Nat) : List Nat :=
  if n = 0 then [] else (Nat.toDigits 10 n).map (·.toNat - 0x30)

/-- How many places `num / den` has before the point; less than one if it is below a tenth. -/
def places (num den : Nat) : Int :=
  if den ≤ num then (digitsOf (num / den)).length
  else
    let zeros := ((List.range 400).takeWhile fun k => num * Nat.pow 10 (k + 1) < den).length
    (0 : Int) - zeros

/-- The digits of the nearest point of the grid of `n` digits, if that is read back as the number. -/
def onGrid (i : Interval) (point : Int) (n : Nat) : Option Nat :=
  let exponent := point - n
  let (num, den) := match exponent with
    | .ofNat e => (1 * Nat.pow 10 e, 1)
    | .negSucc e => (1, Nat.pow 10 (e + 1))
  -- the two neighbours of the value on the grid
  let down := i.value * den / (i.unit * num)
  let hits := [down, down + 1].filter fun c => i.holds (c * num) den
  match hits with
  | [] => none
  | [c] => some c
  | _ =>
    let value := i.value * den
    let below := value - down * num * i.unit
    let above := (down + 1) * num * i.unit - value
    some (if below < above then down else if above < below then down + 1
      else if down % 2 = 0 then down else down + 1)

/-- The shortest digits of a positive number. -/
def decimal (significand : Nat) (exponent : Int) : Decimal :=
  let i := interval significand exponent
  let point := places i.value i.unit
  match ((List.range 17).map (· + 1)).findSome? fun n => (onGrid i point n).map (n, ·) with
  | none => ⟨[], 0⟩
  | some (n, c) =>
    let digits := digitsOf c
    let trimmed := (digits.reverse.dropWhile (· = 0)).reverse
    -- rounding up may have brought one more place
    ⟨trimmed, point + (digits.length - n : Int)⟩

end Shortest

/-! ## Layout -/

/-- How a decimal is laid out: positional where the point lies within bounds, with an exponent beyond. -/
structure Layout where
  /-- The least place of the point that is written positionally. -/
  leastPoint : Int
  /-- The greatest place of the point that is written positionally. -/
  greatestPoint : Int
  /-- The least number of digits of an exponent. -/
  exponentDigits : Nat
deriving Repr

/-- Numbers are shown positionally from a ten-thousandth up to sixteen places. -/
def Layout.plain : Layout := ⟨-3, 16, 2⟩

/-- A digit as a character. -/
def digitChar (d : Nat) : Char := Nat.digitChar d

/-- A natural number with at least `least` digits. -/
def padded (least n : Nat) : Text :=
  let digits := Nat.toDigits 10 n
  List.replicate (least - digits.length) '0' ++ digits

/-- A decimal laid out. -/
def Layout.render (layout : Layout) (x : Decimal) : Text :=
  let digits := x.digits.map digitChar
  if layout.leastPoint ≤ x.point ∧ x.point ≤ layout.greatestPoint then
    if x.point ≤ 0 then '0' :: '.' :: (List.replicate (-x.point).toNat '0' ++ digits)
    else
      let before := digits.take x.point.toNat
      let after := digits.drop x.point.toNat
      before ++ List.replicate (x.point.toNat - before.length) '0' ++
        '.' :: (if after.isEmpty then ['0'] else after)
  else
    let exponent := x.point - 1
    let fraction := digits.drop 1
    digits.take 1 ++ (if fraction.isEmpty then [] else '.' :: fraction) ++
      ['e', if exponent < 0 then '-' else '+'] ++ padded layout.exponentDigits exponent.natAbs

/-- A number in its shortest decimal form. -/
def Binary64.shortest : Binary64 → Text
  | .nan => ['n', 'a', 'n']
  | .infinite negative => (if negative then ['-'] else []) ++ ['i', 'n', 'f']
  | .finite negative significand exponent =>
    (if negative then ['-'] else []) ++
      if significand = 0 then ['0', '.', '0']
      else Layout.plain.render (Shortest.decimal significand exponent)

end Counterpart.Number
