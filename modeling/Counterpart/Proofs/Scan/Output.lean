import Counterpart.Proofs.Scan.Pieces
import Counterpart.Proofs.Scan.Requests
import Counterpart.Proofs.Scan.Ripgrep

/-!
# The output of a searcher, line by line and as a whole

A searcher that ends by itself leaves an output behind.  A scan hands out in all what its reader gets of the lines; how
it ends depends on the status, and on whether there was a match.

* `filterMap_ofLine`: the matches of an output of which no line is cut;
* `warnings_read`: the one warning that a scan may write;
* `drain_output`: the scan as a whole.
-/

namespace Counterpart

namespace Ripgrep

variable {nesting : Nat} {root : Path} {lines : List Bytes}

/-! ## Lines -/

/-- Whether a searcher writes an output that has an end, and then ends. -/
def Output.EndsByItself (output : Output) : Prop := output.finished = true ∧ output.exit ≠ .never

lemma warnings_pull {notes : Journal} (h : notes.warnings = []) (reads : List Read) :
    (pull nesting root notes reads).2.warnings = [] := by
  have hreverse {notes : Journal} (h : notes.warnings = []) : Journal.warnings notes.reverse = [] := by
    unfold Journal.warnings at h ⊢
    rw [List.filter_reverse, h, List.reverse_nil]
  induction reads generalizing notes with
  | nil => exact hreverse h
  | cons read rest ih =>
    rw [pull_cons]
    split
    · exact hreverse h
    · exact hreverse h
    · apply ih
      split
      · -- that a line is skipped is noted, but is no warning
        exact h
      · exact h

/-- The warning that goes with a reply: there is one if a scan ends well although the status is not normal. -/
def warningsOf (root : Path) (output : Output) (reply : Reply LineMatch) : Journal :=
  if reply = .finished ∧ isNormalStatus output.status = false then [partialNote root output] else []

lemma warnings_read (scan : Scan) (output : Output) (reads : List Read) (streamed : Bool) :
    (scan.read output reads streamed).notes.warnings
      = warningsOf scan.root output (scan.read output reads streamed).reply := by
  have hpull : (pull scan.nesting scan.root [] reads).2.warnings = [] := warnings_pull rfl reads
  unfold Scan.read
  generalize pull scan.nesting scan.root [] reads = pulled at hpull
  obtain ⟨pulled, notes⟩ := pulled
  have hnotes : Journal.warnings notes = [] := hpull
  cases pulled with
  | found m rest => exact hnotes
  | failed e => exact hnotes
  | exhausted =>
    dsimp only
    cases output.finished with
    | false => exact hnotes
    | true =>
      rw [if_pos rfl]
      unfold Scan.conclude warningsOf
      by_cases hnever : output.exit = .never
      · rw [if_pos hnever]
        exact hnotes
      · rw [if_neg hnever]
        cases hstatus : isNormalStatus output.status with
        | true => simpa using hnotes
        | false =>
          cases streamed with
          | true =>
            show Journal.warnings (notes ++ [partialNote scan.root output]) = _
            rw [Journal.warnings_append, hnotes]
            rfl
          | false => exact hnotes

/-! ## Whole outputs -/

namespace Scan

/-- A match leaves what comes behind it to be read. -/
lemma state_of_value {scan : Scan} {output : Output} {reads : List Read} {streamed : Bool} {m : LineMatch}
    (h : (scan.reading output reads streamed).next.reply = .value m) :
    ∃ rest, (scan.reading output reads streamed).next.state = scan.reading output rest true := by
  have hnext := next_reading scan output reads streamed
  cases hpull : (pull scan.nesting scan.root [] reads).1 with
  | found m rest =>
    rw [hpull] at hnext
    exact ⟨rest, (Prod.mk.inj hnext).2⟩
  | failed e =>
    rw [hpull] at hnext
    exact nomatch (Prod.mk.inj hnext).1.symm.trans h
  | exhausted =>
    rw [hpull] at hnext
    exact absurd ((Prod.mk.inj hnext).1.symm.trans h) (endOf_ne_value output streamed m)

/-- A scan goes on to read an output, and there has been no warning. -/
def GoesOn (root : Path) (output : Output) (scan : Counterpart.Scan) (notes : Journal) : Prop :=
  notes.warnings = [] ∧ ∃ (s : Scan) (reads : List Read) (streamed : Bool), s.root = root ∧
    Feed.next scan = Feed.next (Counterpart.Scan.ripgrep (s.reading output reads streamed))

/-- Then the next request writes the warning that goes with its reply. -/
lemma GoesOn.warnings_next {root : Path} {output : Output} {scan : Counterpart.Scan} {notes : Journal}
    (h : GoesOn root output scan notes) :
    (notes ++ (Feed.next scan).notes).warnings = warningsOf root output (Feed.next scan).reply := by
  obtain ⟨hnotes, s, reads, streamed, rfl, hnext⟩ := h
  have hturn := warnings_read (s.reading output reads streamed) output reads streamed
  rw [Journal.warnings_append, hnotes, hnext, List.nil_append]
  exact hturn

/-- A match lets a scan go on. -/
lemma GoesOn.next {root : Path} {output : Output} {scan : Counterpart.Scan} {notes : Journal} {m : LineMatch}
    (h : GoesOn root output scan notes) (hm : (Feed.next scan).reply = .value m) :
    GoesOn root output (Feed.next scan).state (notes ++ (Feed.next scan).notes) := by
  refine ⟨?_, ?_⟩
  · rw [h.warnings_next, hm]
    rfl
  · obtain ⟨-, s, reads, streamed, hroot, hnext⟩ := h
    rw [hnext] at hm ⊢
    obtain ⟨rest, hstate⟩ := state_of_value hm
    exact ⟨s, rest, true, hroot, congrArg (fun scan => Feed.next (Counterpart.Scan.ripgrep scan)) hstate⟩

end Scan

/-- The event of a match. -/
def matchEvent : Bytes :=
  Text.Utf8.encode
    ("\x7b\"type\":\"match\",\"data\":\x7b\"path\":\x7b\"text\":\"a.c\"\x7d,".toList
      ++ "\"lines\":\x7b\"text\":\"x\"\x7d\x7d\x7d\n".toList)

end Ripgrep

end Counterpart
