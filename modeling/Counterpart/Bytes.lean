/-!
# Bytes

Contents of files and output of programs, and their division into lines.
-/

namespace Counterpart

/-- A sequence of bytes. -/
abbrev Bytes := List UInt8

namespace Bytes

/-- The byte that ends a line. -/
def lineFeed : UInt8 := 0x0A

/-- The lines of `bytes` after the lines `done` and the beginning of a line, both given backwards. -/
def linesAfter (done : List Bytes) (started : Bytes) : Bytes → List Bytes
  | [] => (if started.isEmpty then done else started.reverse :: done).reverse
  | b :: rest =>
    if b = lineFeed then linesAfter ((b :: started).reverse :: done) [] rest
    else linesAfter done (b :: started) rest

/-- The lines of `bytes`, each with the line feed that ends it.  What stands behind the last line feed is a
line too, unless it is empty. -/
def lines (bytes : Bytes) : List Bytes := linesAfter [] [] bytes

/-- Whether a line has its line feed. -/
def isTerminated (line : Bytes) : Bool := line.getLast? == some lineFeed

theorem flatten_linesAfter (done : List Bytes) (started bytes : Bytes) :
    (linesAfter done started bytes).flatten = done.reverse.flatten ++ started.reverse ++ bytes := by
  induction bytes generalizing done started with
  | nil =>
    unfold linesAfter
    split
    · next h => simp [List.isEmpty_iff.1 h]
    · simp
  | cons b rest ih =>
    unfold linesAfter
    split <;> rw [ih] <;> simp

/-- Nothing is lost between the lines. -/
theorem flatten_lines (bytes : Bytes) : (lines bytes).flatten = bytes := by
  simp [lines, flatten_linesAfter]

end Bytes

end Counterpart
