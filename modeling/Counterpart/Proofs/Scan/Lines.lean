import Counterpart.Proofs.Bytes
import Counterpart.Proofs.FileSystem.Construction
import Counterpart.Proofs.FileSystem.Traversal
import Counterpart.Proofs.Scan.Refusal
import Counterpart.Proofs.Text.Trim

/-!
# The lines that a walk finds

A walk that nobody stops goes through the files of the tree and finds each of their lines that passes its test.

* `ReadsAs` says what the lines of a file are, and which files have none; `readsAs_iff`: it leaves no choice;
* `matchesIn_eq`: what is found in a file is the lines of it that pass the test, in their order;
* `whole_listsEachLine`: the walk as a whole.
-/

namespace Counterpart.Walk

/-- The text of a line: what its bytes say without the carriage returns and line feeds at the end. -/
def IsTextOf (text : Text) (line : Bytes) : Prop :=
  ∃ ending, Text.Utf8.decodeLossy line = text ++ ending ∧ (∀ c ∈ ending, c = '\r' ∨ c = '\n') ∧
    text.getLast? ≠ some '\r' ∧ text.getLast? ≠ some '\n'

/-- What a file is read as: the texts of its lines, if it is a file that can be opened and there is no NUL among its
first 4096 bytes, and otherwise nothing. -/
inductive ReadsAs (fs : FileSystem) (cwd file : Path) : List Text → Prop
  | lines {data : Bytes} {lines : List Bytes} {texts : List Text} (hfile : fs.isFile cwd file = .ok true)
      (hread : fs.read cwd file = .ok data) (hprobe : 0 ∉ data.take 4096) (hlines : data.AreLines lines)
      (htexts : List.Forall₂ IsTextOf texts lines) : ReadsAs fs cwd file texts
  | nothing (h : ∀ data, fs.isFile cwd file = .ok true → fs.read cwd file = .ok data → 0 ∈ data.take 4096) :
      ReadsAs fs cwd file []

/-- The texts that a file is read as. -/
def textsIn (fs : FileSystem) (cwd file : Path) : List Text :=
  match fs.isFile cwd file, fs.read cwd file with
  | .ok true, .ok data => if isBinary data then [] else data.lines.map lineText
  | _, _ => []

variable {fs : FileSystem} {cwd file root : Path} {test : Text → Bool} {data : Bytes}

/-! ## Lines -/

lemma isLineEnd_iff {c : Char} : isLineEnd c = true ↔ c = '\r' ∨ c = '\n' := by
  unfold isLineEnd
  rw [Bool.or_eq_true, decide_eq_true_eq, decide_eq_true_eq]

/-- A line has one text. -/
lemma isTextOf_iff {text : Text} {line : Bytes} : IsTextOf text line ↔ text = lineText line := by
  constructor
  · intro ⟨ending, hline, hending, hreturn, hfeed⟩
    unfold lineText
    rw [hline, Text.trimEnd_append text fun c hc => isLineEnd_iff.2 (hending c hc)]
    refine (List.rdropWhile_eq_self_iff.2 fun hne hlast => ?_).symm
    rw [List.getLast?_eq_some_getLast hne] at hreturn hfeed
    rcases isLineEnd_iff.1 hlast with h | h
    · exact hreturn (congrArg some h)
    · exact hfeed (congrArg some h)
  · rintro rfl
    obtain ⟨ending, hline, hending⟩ := Text.exists_trimEnd isLineEnd (Text.Utf8.decodeLossy line)
    have hlast (c : Char) (h : (lineText line).getLast? = some c) : isLineEnd c ≠ true := by
      obtain ⟨hne, rfl⟩ := List.mem_getLast?_eq_getLast h
      exact List.rdropWhile_last_not _ _ hne
    refine ⟨ending, hline, fun c hc => isLineEnd_iff.1 (hending c hc), fun h => ?_, fun h => ?_⟩
    · exact hlast _ h (isLineEnd_iff.2 (.inl rfl))
    · exact hlast _ h (isLineEnd_iff.2 (.inr rfl))

lemma forall₂_isTextOf_iff {texts : List Text} {lines : List Bytes} :
    List.Forall₂ IsTextOf texts lines ↔ texts = lines.map lineText := by
  rw [← List.forall₂_eq_eq_eq, List.forall₂_map_right_iff]
  exact ⟨fun h => h.imp fun _ _ => isTextOf_iff.1, fun h => h.imp fun _ _ => isTextOf_iff.2⟩

lemma isBinary_iff : isBinary data = true ↔ 0 ∈ data.take 4096 := by
  unfold isBinary probeLength
  rw [List.contains_iff_mem]

/-- A file is read as one thing only. -/
lemma readsAs_iff {texts : List Text} : ReadsAs fs cwd file texts ↔ texts = textsIn fs cwd file := by
  constructor
  · intro h
    cases h with
    | @lines data lines _ hfile hread hprobe hlines htexts =>
      unfold textsIn
      rw [hfile, hread]
      dsimp only
      rw [if_neg (mt isBinary_iff.1 hprobe), hlines.lines_eq]
      exact forall₂_isTextOf_iff.1 htexts
    | nothing h =>
      unfold textsIn
      split
      · next data hfile hread => rw [if_pos (isBinary_iff.2 (h data hfile hread))]
      · rfl
  · rintro rfl
    unfold textsIn
    split
    · next data hfile hread =>
      by_cases hbinary : isBinary data = true
      · rw [if_pos hbinary]
        refine .nothing fun data' _ hread' => ?_
        obtain rfl := Except.ok.inj (hread.symm.trans hread')
        exact isBinary_iff.1 hbinary
      · rw [if_neg hbinary]
        exact .lines hfile hread (mt isBinary_iff.2 hbinary) (Bytes.areLines_lines data) (forall₂_isTextOf_iff.2 rfl)
    · next hno => exact .nothing fun data hfile hread => absurd hread (hno data hfile)

/-! ## Files -/

/-- The steps through some lines find those that pass the test. -/
lemma filterMap_linesSteps (test : Text → Bool) (file : Path) (lines : List Bytes) :
    (linesSteps test file lines).filterMap Step.match?
      = ((lines.map lineText).filter test).map (LineMatch.mk file) := by
  -- to ask finds nothing, and so it does not matter where a line stands
  have hask (index : Nat) (line : Bytes) :
      ((if index % blockLength = 0 then [Step.askLines] else []) ++ lineStep test file line).filterMap Step.match?
        = (lineStep test file line).filterMap Step.match? := by
    split <;> rfl
  unfold linesSteps
  simp only [List.filterMap_flatMap, hask]
  rw [← List.flatMap_map Prod.fst fun line => (lineStep test file line).filterMap Step.match?, List.zipIdx_map_fst]
  induction lines with
  | nil => rfl
  | cons line lines ih =>
    rw [List.flatMap_cons, ih, List.map_cons, List.filter_cons, lineStep]
    split <;> rfl

/-- What is found in a file: those of its lines that pass the test. -/
lemma matchesIn_eq (fs : FileSystem) (cwd : Path) (test : Text → Bool) (file : Path) :
    matchesIn fs cwd test file = ((textsIn fs cwd file).filter test).map (LineMatch.mk file) := by
  unfold matchesIn fileSteps textsIn
  rw [List.filterMap_cons_none rfl]
  cases fs.isFile cwd file with
  | error e => rfl
  | ok isFile =>
    cases isFile with
    | false => rfl
    | true =>
      cases fs.read cwd file with
      | error e => rfl
      | ok data =>
        dsimp only
        split
        · rfl
        · exact filterMap_linesSteps test file data.lines

/-! ## Walks as a whole -/

/-- Where no look at a file is refused, a walk finds all that is in its files. -/
lemma found_whole (h : MeetsNoRefusal fs cwd root) (test : Text → Bool) :
    (whole fs cwd root test).found = (walkedFiles fs cwd root).flatMap (matchesIn fs cwd test) := by
  obtain ⟨hidden, hhides⟩ := hides_whole fs cwd root test
  cases hhides with
  | nothing _ _ hfound => exact hfound
  | @rest before behind file fault hfiles _ hfile _ _ =>
    have hwalked : file ∈ walkedFiles fs cwd root := by simp [hfiles]
    exact absurd ⟨fault, hfile⟩ (h file hwalked)

/-- A walk fails on nothing but a NUL in the path that it is to walk below. -/
lemma error_whole (h : MeetsNoRefusal fs cwd root) (test : Text → Bool) :
    (whole fs cwd root test).error = none ↔ (cwd.join root).IsNulFree := by
  rw [← not_not (a := Path.IsNulFree _), ← FileSystem.list_eq_nul_iff fs]
  constructor
  · intro herror hnul
    unfold whole steps at herror
    rw [hnul] at herror
    exact absurd herror (by simp [Outcome.ofSteps])
  · intro hnul
    unfold whole
    rw [(ofSteps_none _).2, (covers_steps hnul).error, List.findSome?_eq_none_iff]
    exact fun file hfile => refusal?_eq_none_iff.2 (h file hfile)

lemma walkedFiles_eq_filesTo (fs : FileSystem) (cwd root : Path) :
    walkedFiles fs cwd root = fs.filesTo cwd (fs.depth + 1) root := rfl

/-- A walk that nobody stops comes to its end and finds every line that passes its test, once.  What it finds is
what is found in the files to which a traversal of the tree comes, one file after the other, none of them twice; and
what is found in a file is the texts of its lines, in their order, as far as they pass the test.  A NUL in
the path of the root is all that it fails on. -/
theorem whole_listsEachLine (hwf : fs.WellFormed) (hfs : MeetsNoRefusal fs cwd root) (test : Text → Bool) :
    ∃ (files : List Path) (texts : Path → List Text),
      (∀ files', FileSystem.Traverses fs cwd [root] files' ↔ files' = files) ∧ files.Nodup ∧
      (∀ file texts', ReadsAs fs cwd file texts' ↔ texts' = texts file) ∧
      (whole fs cwd root test).found
        = files.flatMap (fun file => ((texts file).filter test).map (LineMatch.mk file)) ∧
      ((whole fs cwd root test).error = none ↔ (cwd.join root).IsNulFree) := by
  refine ⟨fs.filesTo cwd (fs.depth + 1) root, textsIn fs cwd, ?_, ?_, fun file texts => readsAs_iff, ?_, ?_⟩
  · exact FileSystem.traverses_iff hwf cwd root
  · exact FileSystem.nodup_filesTo hwf cwd (fs.depth + 1) root
  · rw [found_whole hfs, walkedFiles_eq_filesTo]
    exact List.flatMap_congr fun file _ => matchesIn_eq fs cwd test file
  · exact error_whole hfs test

/-- A file whose last line has no end, and beside it a directory with a link back up and a file with a NUL in it. -/
def roundabout : FileSystem :=
  ((FileSystem.empty.put (Path.ofText "/p/a.c".toList).components
    { entry := .file (Text.Utf8.encode "x\r\ny\n\nx x".toList) }).put (Path.ofText "/p/d/up".toList).components
      { entry := .link (Path.ofText "/p".toList) }).put (Path.ofText "/p/d/b.c".toList).components
        { entry := .file (Text.Utf8.encode "x\n\x00".toList) }

/-- Two lines are found, and the walk does not go round in circles. -/
theorem whole_roundabout :
    roundabout.WellFormed ∧ MeetsNoRefusal roundabout Path.root (Path.ofText "/p".toList) ∧
    (whole roundabout Path.root (Path.ofText "/p".toList) (Pattern.literal "x".toList).isFoundIn).found
      = [⟨Path.ofText "/p/a.c".toList, "x".toList⟩, ⟨Path.ofText "/p/a.c".toList, "x x".toList⟩] ∧
    ∃ (files : List Path) (texts : Path → List Text),
      FileSystem.Traverses roundabout Path.root [Path.ofText "/p".toList] files ∧
      (∀ file, ReadsAs roundabout Path.root file (texts file)) ∧
      files.flatMap (fun file => ((texts file).filter (Pattern.literal "x".toList).isFoundIn).map (LineMatch.mk file))
        = [⟨Path.ofText "/p/a.c".toList, "x".toList⟩, ⟨Path.ofText "/p/a.c".toList, "x x".toList⟩] := by
  have hwf : roundabout.WellFormed :=
    ((FileSystem.wellFormed_empty.put (by decide) _).put (by decide) _).put (by decide) _
  have hfs : MeetsNoRefusal roundabout Path.root (Path.ofText "/p".toList) :=
    meetsNoRefusal (by unfold FileSystem.RefusesNoLook; decide +kernel) _ _
  have hfound : (whole roundabout Path.root (Path.ofText "/p".toList) (Pattern.literal "x".toList).isFoundIn).found
      = [⟨Path.ofText "/p/a.c".toList, "x".toList⟩, ⟨Path.ofText "/p/a.c".toList, "x x".toList⟩] := by
    decide +kernel
  obtain ⟨files, texts, hfiles, -, htexts, hlines, -⟩ :=
    whole_listsEachLine hwf hfs (Pattern.literal "x".toList).isFoundIn
  exact ⟨hwf, hfs, hfound, files, texts, (hfiles files).2 rfl, fun file => (htexts file _).2 rfl,
    hlines.symm.trans hfound⟩

end Counterpart.Walk
