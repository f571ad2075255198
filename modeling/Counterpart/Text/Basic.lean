/-!
# Text

A text is a list of code points.  Names, paths, lines and patterns are all texts: what is done to them
is splitting, comparing ends and cutting, and on lists each of these has its law.

Lone surrogates are no characters and cannot stand in a text.  Where one is spelled out, in JSON or in bytes, it is
read as the replacement character; a name on a disk that has undecodable bytes in it is not described at all.

`String` is kept for what is only shown to a reader (messages).
-/

namespace Counterpart

/-- A text: its code points in order, none of them a surrogate. -/
abbrev Text := List Char

namespace Text

/-- The text that a string literal shows. -/
def ofString (s : String) : Text := s.toList

/-- A text as a string, to be shown. -/
def toString (t : Text) : String := String.ofList t

theorem ofString_toString (t : Text) : ofString (toString t) = t := String.toList_ofList

/-- The pieces joined, with `c` between two of them. -/
def join (c : Char) (pieces : List Text) : Text := [c].intercalate pieces

/-- The piece of `t` after the last `c`; all of it if there is none. -/
def afterLast (c : Char) (t : Text) : Text := (t.splitOn c).getLastD []

/-- The piece of `t` before the last `c`; empty if there is none. -/
def beforeLast (c : Char) (t : Text) : Text := join c (t.splitOn c).dropLast

/-- `t` without the characters at its end that satisfy `p`. -/
def trimEnd (p : Char → Bool) (t : Text) : Text := (t.reverse.dropWhile p).reverse

/-- `t` without the characters at either end that satisfy `p`. -/
def trim (p : Char → Bool) (t : Text) : Text := trimEnd p (t.dropWhile p)

/-- `t` with `n` characters cut off its end.  A cut longer than the text counts on once more from the
end of the text, so that cutting `n` off `m < n` characters leaves the first `2 * m - n`. -/
def cutEnd (t : Text) (n : Nat) : Text :=
  if n ≤ t.length then t.take (t.length - n) else t.take (2 * t.length - n)

/-- A cut no longer than the text leaves what stands before it. -/
theorem cutEnd_append (s t : Text) : cutEnd (s ++ t) t.length = s := by
  simp [cutEnd]

/-! ## Sorted sets of texts -/

/-- `t` put into its place by code points, once. -/
def insertSorted (t : Text) : List Text → List Text
  | [] => [t]
  | u :: rest => if t = u then u :: rest else if t < u then t :: u :: rest else u :: insertSorted t rest

/-- The texts of a list as a set: in the order of code points, each once. -/
def sortedSet (ts : List Text) : List Text := ts.foldr insertSorted []

theorem mem_insertSorted {t u : Text} {ts : List Text} : u ∈ insertSorted t ts ↔ u = t ∨ u ∈ ts := by
  induction ts with
  | nil => simp [insertSorted]
  | cons v rest ih =>
    unfold insertSorted
    split
    · next h => subst h; simp
    · split
      · simp
      · simp only [List.mem_cons, ih]
        constructor
        · rintro (h | h | h)
          · exact .inr (.inl h)
          · exact .inl h
          · exact .inr (.inr h)
        · rintro (h | h | h)
          · exact .inr (.inl h)
          · exact .inl h
          · exact .inr (.inr h)

/-- The set holds what the list holds. -/
theorem mem_sortedSet {u : Text} {ts : List Text} : u ∈ sortedSet ts ↔ u ∈ ts := by
  induction ts with
  | nil => simp [sortedSet]
  | cons t rest ih =>
    show u ∈ insertSorted t (sortedSet rest) ↔ _
    rw [mem_insertSorted, ih, List.mem_cons]

end Text

end Counterpart
