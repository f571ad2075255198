import Counterpart.Text.Basic

/-!
# Blank characters

The characters that count as white space: the ASCII blanks, the four separators U+001C to U+001F, and the
spaces and line ends of Unicode.
-/

namespace Counterpart.Text

/-- The code points of the blank characters. -/
def blankRanges : List (Nat × Nat) :=
  [(0x09, 0x0D), (0x1C, 0x20), (0x85, 0x85), (0xA0, 0xA0), (0x1680, 0x1680), (0x2000, 0x200A),
    (0x2028, 0x2029), (0x202F, 0x202F), (0x205F, 0x205F), (0x3000, 0x3000)]

/-- Whether `n` lies in one of the ranges, ends included. -/
def inRanges (n : Nat) (ranges : List (Nat × Nat)) : Bool :=
  ranges.any fun (first, last) => first ≤ n && n ≤ last

/-- Whether a character is white space. -/
def isBlank (c : Char) : Bool := inRanges c.toNat blankRanges

/-- A text without the blanks around it. -/
def strip (t : Text) : Text := t.trim isBlank

/-- What core counts as white space is blank. -/
theorem isBlank_of_isWhitespace {c : Char} (h : c.isWhitespace) : isBlank c := by
  simp only [Char.isWhitespace, Bool.or_eq_true, decide_eq_true_eq] at h
  rcases h with ((h | h) | h) | h <;> subst h <;> decide

end Counterpart.Text
