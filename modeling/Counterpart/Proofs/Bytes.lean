import Counterpart.Bytes
import Mathlib.Data.List.TakeWhile
import Mathlib.Tactic.Lemma

/-!
# The lines of bytes

Bytes have one division into lines: each line has its line feed at its end and no other, only the last one may lack
it, and none is empty.

* `AreLines` says that some lines are those of some bytes;
* `areLines_iff`: they are the lines that are read.
-/

namespace Counterpart

namespace Bytes

/-- Some bytes consist of these lines. -/
inductive AreLines : Bytes → List Bytes → Prop
  | nil : AreLines [] []
  /-- What stands behind the last line feed. -/
  | tail {content : Bytes} (hne : content ≠ []) (hfeed : lineFeed ∉ content) : AreLines content [content]
  | cons {content bytes : Bytes} {lines : List Bytes} (hfeed : lineFeed ∉ content) (h : AreLines bytes lines) :
      AreLines (content ++ lineFeed :: bytes) ((content ++ [lineFeed]) :: lines)

/-- A line without its line feed. -/
def content (line : Bytes) : Bytes := line.takeWhile (· ≠ lineFeed)

variable {content bytes line : Bytes} {lines : List Bytes}

lemma linesAfter_eq_append (done : List Bytes) (started bytes : Bytes) :
    linesAfter done started bytes = done.reverse ++ linesAfter [] started bytes := by
  induction bytes generalizing done started with
  | nil =>
    unfold linesAfter
    split
    · simp
    · simp
  | cons b rest ih =>
    unfold linesAfter
    split
    · rw [ih, ih [_]]
      simp
    · exact ih done (b :: started)

lemma linesAfter_append (h : lineFeed ∉ content) (done : List Bytes) (started rest : Bytes) :
    linesAfter done started (content ++ rest) = linesAfter done (content.reverse ++ started) rest := by
  induction content generalizing started with
  | nil => rfl
  | cons b content ih =>
    obtain ⟨hb, hcontent⟩ := List.ne_and_not_mem_of_not_mem_cons h
    rw [List.cons_append, linesAfter, if_neg (Ne.symm hb), ih hcontent, List.reverse_cons, List.append_assoc]
    rfl

lemma lines_append_cons (h : lineFeed ∉ content) (bytes : Bytes) :
    Bytes.lines (content ++ lineFeed :: bytes) = (content ++ [lineFeed]) :: Bytes.lines bytes := by
  unfold Bytes.lines
  rw [linesAfter_append h, linesAfter, if_pos rfl, linesAfter_eq_append]
  simp

lemma lines_of_notMem (hne : content ≠ []) (h : lineFeed ∉ content) : Bytes.lines content = [content] := by
  have hlines := linesAfter_append h [] [] []
  rw [List.append_nil, List.append_nil, linesAfter, if_neg (by simpa using hne)] at hlines
  unfold Bytes.lines
  rw [hlines]
  simp

lemma AreLines.lines_eq (h : AreLines bytes lines) : Bytes.lines bytes = lines := by
  induction h with
  | nil => rfl
  | tail hne hfeed => exact lines_of_notMem hne hfeed
  | cons hfeed _ ih => rw [lines_append_cons hfeed, ih]

lemma areLines_lines (bytes : Bytes) : AreLines bytes (Bytes.lines bytes) := by
  -- the induction is on what stands behind the first line feed
  by_cases hfeed : lineFeed ∈ bytes
  · obtain ⟨content, rest, rfl, hcontent⟩ := List.eq_append_cons_of_mem hfeed
    have hless : rest.length < (content ++ lineFeed :: rest).length := by
      rw [List.length_append, List.length_cons]
      omega
    rw [lines_append_cons hcontent]
    exact .cons hcontent (areLines_lines rest)
  · cases bytes with
    | nil => exact .nil
    | cons b rest =>
      rw [lines_of_notMem (List.cons_ne_nil b rest) hfeed]
      exact .tail (List.cons_ne_nil b rest) hfeed
termination_by bytes.length

/-- What stands before a first line belongs to it. -/
lemma AreLines.append_left (h : AreLines bytes (line :: lines)) (hcontent : lineFeed ∉ content) :
    AreLines (content ++ bytes) ((content ++ line) :: lines) := by
  have hfeed {more : Bytes} (hmore : lineFeed ∉ more) : lineFeed ∉ content ++ more :=
    fun hmem => (List.mem_append.mp hmem).elim hcontent hmore
  cases h with
  | tail hne hline => exact .tail (List.append_ne_nil_of_right_ne_nil content hne) (hfeed hline)
  | cons hline hlines =>
    have hcons := AreLines.cons (hfeed hline) hlines
    rwa [List.append_assoc, List.append_assoc] at hcons

/-- What stands behind the first line feed are the other lines. -/
lemma AreLines.of_append_cons (h : AreLines (content ++ lineFeed :: bytes) lines) (hcontent : lineFeed ∉ content) :
    ∃ rest, lines = (content ++ [lineFeed]) :: rest ∧ AreLines bytes rest :=
  ⟨Bytes.lines bytes, by rw [← h.lines_eq, lines_append_cons hcontent], areLines_lines bytes⟩

lemma content_of_notMem (h : lineFeed ∉ content) : Bytes.content content = content :=
  List.takeWhile_eq_self_iff.mpr fun _ hb => decide_eq_true (ne_of_mem_of_not_mem hb h)

lemma content_append (h : lineFeed ∉ content) : Bytes.content (content ++ [lineFeed]) = content := by
  unfold Bytes.content
  rw [List.takeWhile_append_of_pos fun b hb => decide_eq_true (ne_of_mem_of_not_mem hb h),
    List.takeWhile_cons_of_neg (by simp), List.append_nil]

/-- A line has some content, and behind that its line feed or nothing. -/
lemma AreLines.eq_content (h : AreLines bytes lines) (hline : line ∈ lines) :
    lineFeed ∉ Bytes.content line ∧ (line = Bytes.content line ∨ line = Bytes.content line ++ [lineFeed]) := by
  induction h with
  | nil => exact absurd hline List.not_mem_nil
  | tail hne hfeed =>
    obtain rfl := List.mem_singleton.mp hline
    rw [content_of_notMem hfeed]
    exact ⟨hfeed, .inl rfl⟩
  | cons hfeed _ ih =>
    rcases List.mem_cons.mp hline with rfl | hline
    · rw [content_append hfeed]
      exact ⟨hfeed, .inr rfl⟩
    · exact ih hline

end Bytes

end Counterpart
