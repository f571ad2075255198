import Counterpart.Proofs.Include.Acceptance
import Counterpart.Proofs.Lookup.Results
import Counterpart.Proofs.Scan.Walk

/-!
# The first source that includes a header

A search that walks gives the first file, in the order of the walk, that is a readable source and holds a line
that includes the header; and it says that there is none exactly if there is none.

* `IncludesHeader` says what such a file is;
* `any_matchesIn_iff`: the scan finds a line in it that the query accepts, and in no other file;
* `firstIncludingSource_walk`: the whole search.
-/

namespace Counterpart

lemma Pattern.isFoundIn_of_match? {p : Pattern} {t : Text} (h : (p.match? t).isSome = true) :
    p.isFoundIn t = true := by
  obtain ⟨s, hs⟩ := Option.isSome_iff_exists.mp h
  unfold Pattern.match? Cursor.start at hs
  unfold isFoundIn
  cases t with
  | nil => rw [searchFrom, hs]; rfl
  | cons c rest => rw [searchFrom, hs]; rfl

namespace Lookup

open Include Walk

variable {around : Surroundings} {table : ExtensionTable} {header project file : Path}

/-! ## Files -/

/-- A line includes a header from a file: by its route from the project, by its bare name, or by a spelling that
ascends and leads from the file's directory to the header. -/
def IncludesFrom (around : Surroundings) (header project file : Path) (line : Text) : Prop :=
  ∃ path, IncludeLine defaultDirectives line path ∧
    (path = (header.relativeTo project around.cwd).text ∨ path = header.name ∨
      (IsAscending (header.relativeTo project around.cwd).text header.name path ∧
        (file.parent.join (Path.ofText path)).normal = header))

/-- A file is a source that can be read, is not binary, and has a line that includes a header. -/
structure IncludesHeader (around : Surroundings) (table : ExtensionTable) (header project file : Path) :
    Prop where
  isFile : around.fs.isFile around.cwd file = .ok true
  isSource : table.role file.text = .source
  hasLine : ∃ data, around.fs.read around.cwd file = .ok data ∧ 0 ∉ data.take 4096 ∧
    ∃ line ∈ data.lines, IncludesFrom around header project file (Text.Utf8.decodeLossy line)

/-- A line is accepted without its line end if it is accepted with it. -/
lemma accepts_lineText (query : Query) (line : Bytes) :
    query.accepts table file (lineText line) = query.accepts table file (Text.Utf8.decodeLossy line) := by
  obtain ⟨ending, hline, hending⟩ := Text.exists_trimEnd Query.isLineEnd (Text.Utf8.decodeLossy line)
  have htext : Text.Utf8.decodeLossy line = lineText line ++ ending := hline
  rw [htext, query.accepts_append_lineEnds hending]

lemma accepts_decoded_iff {line : Bytes} :
    (Query.forHeader header project around.cwd).accepts table file (lineText line) = true ↔
      table.role file.text = .source ∧
        IncludesFrom around header project file (Text.Utf8.decodeLossy line) := by
  rw [accepts_lineText]
  exact Query.accepts_iff_includeLine (by decide) areWords_defaultDirectives

/-- What a query accepts has been found by its pattern. -/
lemma isFoundIn_of_accepts {query : Query} {line : Bytes}
    (h : query.accepts table file (lineText line) = true) : query.pattern.isFoundIn (lineText line) = true := by
  have htrim : (lineText line).trimEnd Query.isLineEnd = lineText line := Text.trimEnd_trimEnd _ _
  unfold Query.accepts at h
  rw [htrim, Bool.and_eq_true] at h
  refine Pattern.isFoundIn_of_match? ?_
  cases hmatch : query.pattern.match? (lineText line) with
  | some cursor => rfl
  | none => simp [spelling?, hmatch] at h

/-- The scan finds a line that the query accepts in the files that include the header, and in no others. -/
lemma any_matchesIn_iff :
    (matchesIn around.fs around.cwd (Query.forHeader header project around.cwd).pattern.isFoundIn file).any
        (Search.takes (Query.forHeader header project around.cwd) table) = true ↔
      IncludesHeader around table header project file := by
  rw [List.any_eq_true]
  constructor
  · intro ⟨m, hm, htakes⟩
    obtain ⟨hfile, data, hread, hbinary, line, hline, -, rfl⟩ := mem_matchesIn.1 hm
    obtain ⟨hsource, hincludes⟩ := accepts_decoded_iff.1 htakes
    refine ⟨hfile, hsource, data, hread, ?_, line, hline, hincludes⟩
    simpa [isBinary, probeLength] using hbinary
  · intro ⟨hfile, hsource, data, hread, hprobe, line, hline, hincludes⟩
    have haccepts := accepts_decoded_iff.2 ⟨hsource, hincludes⟩
    refine ⟨⟨file, lineText line⟩, mem_matchesIn.2 ⟨hfile, data, hread, ?_, line, hline, ?_, rfl⟩, haccepts⟩
    · simpa [isBinary, probeLength] using hprobe
    · exact isFoundIn_of_accepts haccepts

/-! ## Searches -/

/-- The first match with a property, among those of several files, is in the first file that has one. -/
lemma find?_flatMap_path {files : List Path} {found : Path → List LineMatch}
    (hpath : ∀ file, ∀ m ∈ found file, m.path = file) (p : LineMatch → Bool) :
    ((files.flatMap found).find? p).map (·.path) = files.find? fun file => (found file).any p := by
  induction files with
  | nil => rfl
  | cons file rest ih =>
    rw [List.flatMap_cons, List.find?_append]
    cases hfind : (found file).find? p with
    | some m =>
      -- the match is in the first file, which is then the one to be found
      have hany : (found file).any p = true :=
        List.any_eq_true.mpr ⟨m, List.mem_of_find?_eq_some hfind, List.find?_some hfind⟩
      rw [List.find?_cons_of_pos (p := fun file => (found file).any p) hany, Option.some_or, Option.map_some,
        hpath file m (List.mem_of_find?_eq_some hfind)]
    | none =>
      have hany : ¬ (found file).any p = true := by
        rw [List.any_eq_true]
        intro ⟨m, hm, hp⟩
        exact List.find?_eq_none.mp hfind m hm hp
      rw [List.find?_cons_of_neg (p := fun file => (found file).any p) hany, Option.none_or, ih]

/-- What is reported of a search that has not begun is what its scan leads to. -/
lemma result_firstOf {search : Search} (h : search.phase = .searching) (notes : Journal) :
    (firstOf search notes).result =
      match (Search.pull search.query search.table search.scan []).reply with
      | .value source => .ok (some source)
      | .finished | .blocked => .ok none
      | .failed e => .error (.scan e) := by
  unfold firstOf Search.next
  rw [h]
  cases hreply : (Search.pull search.query search.table search.scan []).reply <;> simp [hreply]

/-- What is reported of a search for arguments that are accepted, if its scan comes to its end: the file of the first
match that the query accepts. -/
lemma result_firstIncludingSource {headerArg projectArg : Argument} {directives : List Text} {scanner : Scanner}
    {scan : Scan} (hheader : headerArg.require "header" around.cwd = .ok header)
    (hproject : projectArg.require "project_root" around.cwd = .ok project)
    (hscan : scanner.scan around (Query.forHeader header project around.cwd directives).directory
      (Query.forHeader header project around.cwd directives).pattern = scan)
    (hend : (Feed.drain scan).2.reply = .finished) (table : ExtensionTable) :
    (firstIncludingSource around headerArg projectArg table (some scanner) directives).result =
      .ok (((Feed.drain scan).1.find?
        (Search.takes (Query.forHeader header project around.cwd directives) table)).map (·.path)) := by
  obtain ⟨notes, hcreate⟩ := Search.create_eq around header project table (some scanner) directives
  unfold firstIncludingSource
  rw [Search.ofArguments_eq hheader hproject, hcreate]
  dsimp only
  rw [result_firstOf rfl]
  dsimp only [Search.chosenScanner]
  rw [hscan, Search.reply_pull_of_finished hend]
  cases ((Feed.drain scan).1.find? _).map (·.path) with
  | some source => rfl
  | none => rfl

lemma path_of_mem_matchesIn {test : Text → Bool} (file : Path) (m : LineMatch)
    (h : m ∈ matchesIn around.fs around.cwd test file) : m.path = file := by
  obtain ⟨-, _, -, -, _, -, -, rfl⟩ := mem_matchesIn.1 h
  rfl

lemma result_firstIncludingSource_walk {headerArg projectArg : Argument} (hcwd : around.cwd.IsNulFree)
    (hheader : headerArg.require "header" around.cwd = .ok header)
    (hproject : projectArg.require "project_root" around.cwd = .ok project)
    (hmeets : MeetsNoRefusal around.fs around.cwd header.parent) (table : ExtensionTable) :
    (firstIncludingSource around headerArg projectArg table (some .walk) defaultDirectives).result
      = .ok ((walkedFiles around.fs around.cwd header.parent).find? fun file =>
          (matchesIn around.fs around.cwd (Query.forHeader header project around.cwd).pattern.isFoundIn file).any
            (Search.takes (Query.forHeader header project around.cwd) table)) := by
  have hdirectory : header.parent.IsNulFree := (Argument.isNulFree_of_require hcwd hheader).parent
  let query := Query.forHeader header project around.cwd
  obtain ⟨hvalues, hend⟩ := drain_start query.pattern.isFoundIn hmeets hcwd hdirectory
  have hscan : Scanner.walk.scan around query.directory query.pattern
      = .walk (.start around.fs around.cwd header.parent query.pattern.isFoundIn) := rfl
  rw [result_firstIncludingSource hheader hproject hscan hend, ← find?_flatMap_path path_of_mem_matchesIn, ← hvalues]

/-- The search of a walk gives the first file that includes the header, and none exactly if there is none. -/
theorem firstIncludingSource_walk {headerArg projectArg : Argument} (hcwd : around.cwd.IsNulFree)
    (hheader : headerArg.require "header" around.cwd = .ok header)
    (hproject : projectArg.require "project_root" around.cwd = .ok project)
    (hmeets : MeetsNoRefusal around.fs around.cwd header.parent) (table : ExtensionTable) :
    let report := firstIncludingSource around headerArg projectArg table (some .walk) defaultDirectives
    (∀ source, report.result = .ok (some source) ↔
      IncludesHeader around table header project source ∧
        ∃ before behind, walkedFiles around.fs around.cwd header.parent = before ++ source :: behind ∧
          ∀ file ∈ before, ¬ IncludesHeader around table header project file) ∧
    (report.result = .ok none ↔
      ∀ file ∈ walkedFiles around.fs around.cwd header.parent,
        ¬ IncludesHeader around table header project file) := by
  intro report
  have hresult : report.result = .ok _ :=
    result_firstIncludingSource_walk hcwd hheader hproject hmeets table
  constructor
  · intro source
    rw [hresult, Except.ok.injEq, List.find?_eq_some_iff_append, any_matchesIn_iff]
    simp only [Bool.not_eq_true', ← Bool.not_eq_true, any_matchesIn_iff]
  · rw [hresult, Except.ok.injEq, List.find?_eq_none]
    simp only [any_matchesIn_iff]

/-- A header and, beside it, a source that includes it. -/
def headerAndSource : Surroundings where
  fs := (FileSystem.empty.put (Path.ofText "/p/a.h".toList).components { entry := .file [] }).put
    (Path.ofText "/p/b.c".toList).components { entry := .file (Text.Utf8.encode "#include <a.h>\n".toList) }
  cwd := Path.root

/-- The source beside the header is found. -/
theorem firstIncludingSource_headerAndSource :
    headerAndSource.cwd.IsNulFree ∧
    (Argument.text "/p/a.h".toList).require "header" headerAndSource.cwd = .ok (Path.ofText "/p/a.h".toList) ∧
    (Argument.text "/p".toList).require "project_root" headerAndSource.cwd = .ok (Path.ofText "/p".toList) ∧
    MeetsNoRefusal headerAndSource.fs headerAndSource.cwd (Path.ofText "/p/a.h".toList).parent ∧
    (firstIncludingSource headerAndSource (.text "/p/a.h".toList) (.text "/p".toList) .default (some .walk)
      defaultDirectives).result = .ok (some (Path.ofText "/p/b.c".toList)) := by
  have hcwd : headerAndSource.cwd.IsNulFree := by
    unfold Path.IsNulFree
    decide
  have hmeets : MeetsNoRefusal headerAndSource.fs headerAndSource.cwd (Path.ofText "/p/a.h".toList).parent :=
    meetsNoRefusal (by unfold FileSystem.RefusesNoLook; decide +kernel) _ _
  have hheader : (Argument.text "/p/a.h".toList).require "header" headerAndSource.cwd
      = .ok (Path.ofText "/p/a.h".toList) := rfl
  have hproject : (Argument.text "/p".toList).require "project_root" headerAndSource.cwd
      = .ok (Path.ofText "/p".toList) := rfl
  obtain ⟨hfirst, -⟩ := firstIncludingSource_walk hcwd hheader hproject hmeets .default
  refine ⟨hcwd, hheader, hproject, hmeets, (hfirst _).mpr ⟨⟨?_, ?_, ?_⟩, ?_⟩⟩
  · decide +kernel
  · decide +kernel
  · have hblank (c : Char) (h : Text.isBlank c = true) : AllBlank [c] := fun d hd => by
      rwa [List.mem_singleton.mp hd]
    refine ⟨Text.Utf8.encode "#include <a.h>\n".toList, by rfl, by decide +kernel,
      Text.Utf8.encode "#include <a.h>\n".toList, by decide +kernel, "a.h".toList, ?_, .inl (by decide +kernel)⟩
    exact ⟨[], "include".toList, [' '], ['\n'], '<', '>', by decide +kernel, fun c hc => absurd hc List.not_mem_nil,
      by decide, hblank ' ' (by decide), by decide, by decide, by decide, hblank '\n' (by decide)⟩
  · refine ⟨[Path.ofText "/p/a.h".toList], [], by decide +kernel, ?_⟩
    intro file hfile hincludes
    obtain rfl := List.mem_singleton.mp hfile
    exact absurd hincludes.isSource (by decide +kernel)

end Lookup

end Counterpart
