import Counterpart.Number.Binary64
import Counterpart.Text.DecimalDigit

/-!
# Numerals

Reading a floating-point number as a user writes it: blanks around it, a sign, digits of any script, single
underscores between digits, a point, an exponent; or a word for infinity or for no number.
-/

namespace Counterpart.Number

/-- Blanks that may stand around a numeral: all but the four separators U+001C to U+001F. -/
def isNumeralBlank (c : Char) : Bool := Text.isBlank c && !(0x1C ≤ c.toNat && c.toNat ≤ 0x1F)

/-- A text with its decimal digits written in ASCII. -/
def asciiDigits (t : Text) : Text := t.map fun c => ((Text.decimalValue? c).map Nat.digitChar).getD c

/-- A text without its underscores, each of which must stand between two ASCII digits. -/
def dropUnderscores (previous : Option Char) : Text → Option Text
  | [] => if previous = some '_' then none else some []
  | c :: rest =>
    if c = '_' then
      if previous.any (·.isDigit) then dropUnderscores (some '_') rest else none
    else if previous = some '_' ∧ ¬ c.isDigit then none
    else (dropUnderscores (some c) rest).map (c :: ·)

/-- The value of each leading ASCII digit, and what follows them. -/
def leadingDigits (t : Text) : List Nat × Text :=
  ((t.takeWhile (·.isDigit)).map (·.toNat - 0x30), t.dropWhile (·.isDigit))

/-- A sign, if one comes first: whether it is a minus, and what follows. -/
def leadingSign : Text → Bool × Text
  | '-' :: rest => (true, rest)
  | '+' :: rest => (false, rest)
  | t => (false, t)

/-- The exponent part that makes up all of `t`; zero if there is none. -/
def exponentPart? : Text → Option Int
  | [] => some 0
  | c :: t =>
    if c = 'e' ∨ c = 'E' then
      let (negative, t) := leadingSign t
      let (digits, rest) := leadingDigits t
      if digits.isEmpty ∨ ¬ rest.isEmpty then none
      else
        let n : Nat := digits.foldl (fun n d => 10 * n + d) 0
        some (if negative then -(n : Int) else n)
    else none

/-- A decimal number without sign. -/
def unsigned? (negative : Bool) (t : Text) : Option Binary64 :=
  let (whole, rest) := leadingDigits t
  let (fraction, rest) := match rest with
    | '.' :: after => leadingDigits after
    | _ => ([], rest)
  if whole.isEmpty ∧ fraction.isEmpty then none
  else (exponentPart? rest).map fun exponent =>
    .ofDecimal negative (whole ++ fraction) (exponent - fraction.length)

/-- The words for infinity, in lower case. -/
def infinityWords : List Text := ["inf".toList, "infinity".toList]

/-- The number that a text writes, if it writes one. -/
def numeral? (t : Text) : Option Binary64 := do
  let t ← dropUnderscores none (asciiDigits (t.trim isNumeralBlank))
  let (negative, body) := leadingSign t
  let word := body.map Char.toLower
  if word ∈ infinityWords then return .infinite negative
  else if word = "nan".toList then return .nan
  else unsigned? negative body

end Counterpart.Number
