import Counterpart.Text.Blank
import Counterpart.Text.LowerCaseTable
import Counterpart.Text.CaseContextTable

/-!
# Lower case

The full lower-case form of a text.  Each character is mapped alone, with one exception: a capital sigma
becomes a final sigma where it ends a word, so its form hangs on the letters around it.
-/

namespace Counterpart.Text

/-- Whether a run gives `n` a lower-case form. -/
def CaseRun.contains (run : CaseRun) (n : Nat) : Bool :=
  run.first ≤ n && n ≤ run.last && (n - run.first) % run.stride = 0

/-- The lower-case form of a single character, out of any context.  Only the dotted capital I has a form
of two characters. -/
def lowerChar (c : Char) : Text :=
  if c.toNat < 0x80 then [c.toLower]
  else if c = 'İ' then ['i', '\u0307']
  else match caseRuns.find? (·.contains c.toNat) with
    | some run => [Char.ofNat (run.target + (c.toNat - run.first))]
    | none => [c]

/-- Whether a character is passed over when a neighbouring letter is looked for. -/
def isCaseIgnorable (c : Char) : Bool := inRanges c.toNat caseIgnorableRanges

/-- Whether a text begins with a cased letter, once what is passed over is left out. -/
def startsCased (t : Text) : Bool :=
  match t.dropWhile isCaseIgnorable with
  | [] => false
  | c :: _ => inRanges c.toNat casedRanges

/-- Whether a sigma between two texts ends a word: a cased letter stands before it and none after it.
The text before it is given backwards. -/
def endsWord (before after : Text) : Bool := startsCased before && !startsCased after

/-- The lower-case form of a text that follows `before`, which is given backwards. -/
def lowerAfter (before : Text) : Text → Text
  | [] => []
  | c :: after =>
    let form := if c = 'Σ' then [if endsWord before after then 'ς' else 'σ'] else lowerChar c
    form ++ lowerAfter (c :: before) after

/-- The lower-case form of a text. -/
def lower (t : Text) : Text := lowerAfter [] t

/-- A character below U+0080 has the lower-case form that core gives it. -/
theorem lowerChar_of_ascii {c : Char} (h : c.toNat < 0x80) : lowerChar c = [c.toLower] := by
  simp [lowerChar, h]

end Counterpart.Text
