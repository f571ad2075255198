import Counterpart.Text.Blank
import Counterpart.Text.PrintableTable

/-!
# Quoted text

How a text is shown inside a message: between single quotes, or double ones where that saves escapes, with
a backslash form for everything that would not be seen as itself.
-/

namespace Counterpart.Text

/-- Whether a character is shown as itself. -/
def isPrintable (c : Char) : Bool :=
  if c.toNat < 0x7F then 0x20 ≤ c.toNat else inRanges c.toNat printableRanges

/-- The last `digits` hexadecimal digits of `n`, in lower case. -/
def hexDigits (digits n : Nat) : Text :=
  ((List.range digits).map fun i => Nat.digitChar (n / Nat.pow 16 i % 16)).reverse

/-- The quote around a text: a single one, unless the text has single quotes and no double ones. -/
def quoteMark (t : Text) : Char := if t.contains '\'' && !t.contains '"' then '"' else '\''

/-- How a character is shown between two `mark`s. -/
def quotedChar (mark c : Char) : Text :=
  if c = mark ∨ c = '\\' then ['\\', c]
  else if c = '\n' then ['\\', 'n']
  else if c = '\r' then ['\\', 'r']
  else if c = '\t' then ['\\', 't']
  else if isPrintable c then [c]
  else if c.toNat < 0x100 then '\\' :: 'x' :: hexDigits 2 c.toNat
  else if c.toNat < 0x10000 then '\\' :: 'u' :: hexDigits 4 c.toNat
  else '\\' :: 'U' :: hexDigits 8 c.toNat

/-- The quoted form of a text. -/
def quoted (t : Text) : Text :=
  let mark := quoteMark t
  mark :: t.flatMap (quotedChar mark) ++ [mark]

end Counterpart.Text
