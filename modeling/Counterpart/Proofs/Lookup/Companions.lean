import Counterpart.Proofs.Lookup.Headers
import Counterpart.Proofs.Lookup.Pairing
import Counterpart.Proofs.Scan.Walk

/-!
# What a companion is

A companion always has the opposite role, however the extensions overlap and wherever it comes from: from a directory
that is listed, or from a scan, be it a script that says whatever it likes.

* `isBelow_of_mem_walk`: a walk only hands out files below its directory;
* `searchSource_found`: what a search with a time limit finds;
* `IsCompanion` and `companion_isOpposite`: what is known of a companion.
-/

namespace Counterpart

lemma Role.counterpart_ne {role : Role} (h : role ≠ .other) : role.counterpart ≠ role := by
  cases role with
  | header => exact fun hsame => nomatch hsame
  | source => exact fun hsame => nomatch hsame
  | other => exact absurd rfl h

namespace Lookup

open Include

variable {around : Surroundings} {table : ExtensionTable} {scanner : Option Scanner} {file mate project : Path}

/-! ## Searches -/

/-- A walk only hands out files below its directory. -/
lemma isBelow_of_mem_walk {dir : Path} {pattern : Pattern} (hcwd : around.cwd.IsNulFree) (hdir : dir.IsNulFree)
    {m : LineMatch} (h : m ∈ (Feed.drain (Scanner.walk.scan around dir pattern)).1) : m.path.IsBelow dir := by
  have hvalues := (Walk.drain_walk dir (Walk.steps around.fs around.cwd dir pattern.isFoundIn)).1
  have hmatch : m ∈ Walk.matchesOf (Walk.steps around.fs around.cwd dir pattern.isFoundIn) := hvalues ▸ h
  have hfound := Walk.mem_filterMap_of_mem_matchesOf hmatch
  rw [Walk.filterMap_steps hcwd hdir] at hfound
  obtain ⟨walked, hwalked, hm⟩ := List.mem_flatMap.mp hfound
  obtain ⟨-, _, -, -, _, -, -, rfl⟩ := Walk.mem_matchesIn.mp hm
  obtain ⟨cs, hcs, rfl⟩ := Walk.exists_components_of_mem_walkedFiles hwalked
  exact Path.isBelow_of_components hcs

/-- What a search with a time limit finds is the file of a match of its scan, one that the query accepts. -/
lemma exists_match_of_firstWithin {search : Search} (hphase : search.phase = .searching) {limit : TimeLimit}
    {notes : Journal} (h : (firstWithin limit search notes).result = .ok (some mate)) :
    ∃ m ∈ (Feed.drain search.scan).1, Search.takes search.query search.table m = true ∧ m.path = mate := by
  have hcomes := comesTo_firstWithin hphase limit notes
  rw [h] at hcomes
  cases hcomes with
  | found hpull => exact Search.exists_match_of_pull hpull

/-- A lookup that has found something by a search has begun one. -/
lemma searchSource_eq_firstWithin {limit : TimeLimit}
    (h : (searchSource around table scanner limit file project).result = .ok (some mate)) :
    searchSource around table scanner limit file project =
      firstWithin limit (Search.create around file project table scanner defaultDirectives).1
        (Search.create around file project table scanner defaultDirectives).2 := by
  unfold searchSource at h ⊢
  split at h
  · exact nomatch h
  · next hover =>
    split at h
    · exact nomatch h
    · rw [if_neg hover]

/-- What the search of a lookup finds is a source.  A scan has been made ready for it, and if that is a walk, the source
lies below the directory of the header. -/
lemma searchSource_found {limit : TimeLimit} (hcwd : around.cwd.IsNulFree) (hfile : file.IsNulFree)
    (h : (searchSource around table scanner limit file project).result = .ok (some mate)) :
    table.role mate.text = .source ∧
      (∃ scan, (searchSource around table scanner limit file project).scan = some scan) ∧
      (Search.chosenScanner around scanner = .walk → mate.IsBelow file.parent) := by
  obtain ⟨notes, hcreate⟩ := Search.create_eq around file project table scanner defaultDirectives
  have hsearch := searchSource_eq_firstWithin h
  rw [hcreate] at hsearch
  rw [hsearch] at h ⊢
  obtain ⟨m, hm, htakes, rfl⟩ := exists_match_of_firstWithin rfl h
  refine ⟨?_, ⟨_, scan_firstWithin _ _ _⟩, ?_⟩
  · -- the query looks at the role before anything else
    unfold Search.takes Query.accepts at htakes
    rw [Bool.and_eq_true, decide_eq_true_eq] at htakes
    exact htakes.1
  · intro hwalk
    rw [hwalk] at hm
    exact isBelow_of_mem_walk hcwd hfile.parent hm

/-! ## Companions -/

/-- Where the companion of a file comes from: from the directory of the file, from the header directories of its
framework, or from a search.  Only for a search a scan is made ready. -/
inductive ComesFrom (around : Surroundings) (table : ExtensionTable) (scanner : Option Scanner) (file mate : Path) :
    Option Scan → Prop
  | sibling (hlisted : mate ∈ around.fs.filesIn around.cwd file.parent)
      (hbasename : table.basename mate.text = table.basename file.text) : ComesFrom around table scanner file mate none
  | framework {framework : Framework} {dir : Path} (hrole : table.role file.text = .source)
      (hframework : Framework.ofDirectory? file.parent = some framework) (hdir : dir ∈ framework.headerDirectories)
      (hlisted : mate ∈ around.fs.filesIn around.cwd dir)
      (hbasename : table.basename mate.text = table.basename file.text) : ComesFrom around table scanner file mate none
  | search {scan : Scan} (hrole : table.role file.text = .header)
      (hbelow : Search.chosenScanner around scanner = .walk → mate.IsBelow file.parent) :
      ComesFrom around table scanner file mate (some scan)

/-- What is known of a companion: it is a source if the file is a header, and a header if the file is a source; so it is
not the file itself. -/
structure IsCompanion (around : Surroundings) (table : ExtensionTable) (scanner : Option Scanner) (file mate : Path)
    (scan : Option Scan) : Prop where
  isKnown : table.role file.text ≠ .other
  role : table.role mate.text = (table.role file.text).counterpart
  ne : mate ≠ file
  comesFrom : ComesFrom around table scanner file mate scan

lemma ComesFrom.isCompanion {scan : Option Scan} (h : ComesFrom around table scanner file mate scan)
    (hknown : table.role file.text ≠ .other) (hrole : table.role mate.text = (table.role file.text).counterpart) :
    IsCompanion around table scanner file mate scan where
  isKnown := hknown
  role := hrole
  ne := by
    rintro rfl
    exact Role.counterpart_ne hknown hrole.symm
  comesFrom := h

/-- The header that a lookup finds is a companion of its source. -/
lemma isCompanion_header (scanner : Option Scanner) (hcwd : around.cwd.IsNulFree) (hfile : file.IsNulFree)
    (hrole : table.role file.text = .source) (h : (header around table file).result = .ok (some mate)) :
    IsCompanion around table scanner file mate (header around table file).scan := by
  obtain ⟨⟨dir, hdir, hlisted⟩, haccepts⟩ := mem_filesIn_of_result_header hcwd hfile h
  obtain ⟨hmate, hbasename⟩ := Probe.accepts_iff.mp haccepts
  have hcomes : ComesFrom around table scanner file mate (header around table file).scan := by
    rw [scan_header]
    rcases mem_headerDirectories.mp hdir with rfl | ⟨framework, hframework, hdir⟩
    · exact .sibling hlisted hbasename
    · exact .framework hrole hframework hdir hlisted hbasename
  have hcounterpart : table.role mate.text = (table.role file.text).counterpart := by
    rw [hrole]
    exact hmate
  exact hcomes.isCompanion (by simp [hrole]) hcounterpart

/-- The source that a lookup finds is a companion of its header. -/
lemma isCompanion_source {limit : Option TimeLimit} (hcwd : around.cwd.IsNulFree) (hfile : file.IsNulFree)
    (hrole : table.role file.text = .header)
    (h : (source around table scanner limit file project).result = .ok (some mate)) :
    IsCompanion around table scanner file mate (source around table scanner limit file project).scan := by
  have hknown : table.role file.text ≠ .other := by simp [hrole]
  obtain ⟨notes, hrun⟩ := (sourceProbe table file).run_eq around.fs hcwd hfile.parent
  rw [source_of_run hrun] at h ⊢
  cases hsibling : (around.fs.filesIn around.cwd file.parent).find? (sourceProbe table file).accepts with
  | some sibling =>
    rw [hsibling] at h
    obtain rfl := Option.some.inj (Except.ok.inj h)
    have hmate := isMate_iff.mpr ⟨List.mem_of_find?_eq_some hsibling, List.find?_some hsibling⟩
    have hcomes : ComesFrom around table scanner file sibling none := .sibling hmate.listed hmate.basename
    exact hcomes.isCompanion hknown (by rw [hmate.role, hrole]; rfl)
  | none =>
    rw [hsibling] at h
    obtain ⟨hmate, ⟨scan, hscan⟩, hbelow⟩ := searchSource_found hcwd hfile h
    have hcomes : ComesFrom around table scanner file mate (some scan) := .search hrole hbelow
    show IsCompanion around table scanner file mate (searchSource around table scanner _ file project).scan
    rw [hscan]
    exact hcomes.isCompanion hknown (by rw [hmate, hrole]; rfl)

variable {fileArg projectArg : Argument} {name name' : String}

/-- A file that is neither a header nor a source has no companion, and the companion of any other file is of the
opposite role.  If it was found without a search, it has the base name of the file; if a walk has found it, it lies
below the directory of the header. -/
theorem companion_isOpposite (hcwd : around.cwd.IsWorkingDirectory) (hfile : fileArg.require name around.cwd = .ok file)
    (hproject : projectArg.require name' around.cwd = .ok project) (table : ExtensionTable)
    (scanner : Option Scanner) (limit : Option TimeLimit) :
    (table.role file.text = .other →
      (companion around table scanner limit fileArg projectArg).result = .ok none) ∧
    ∀ mate, (companion around table scanner limit fileArg projectArg).result = .ok (some mate) →
      IsCompanion around table scanner file mate (companion around table scanner limit fileArg projectArg).scan := by
  have hnul : file.IsNulFree := Argument.isNulFree_of_require hcwd.nulFree hfile
  rw [companion_eq hcwd hfile hproject]
  cases hrole : table.role file.text with
  | header => exact ⟨fun hother => absurd hother (by simp), fun mate h => isCompanion_source hcwd.nulFree hnul hrole h⟩
  | source =>
    exact ⟨fun hother => absurd hother (by simp), fun mate h => isCompanion_header scanner hcwd.nulFree hnul hrole h⟩
  | other => exact ⟨fun _ => rfl, fun mate h => absurd (Except.ok.inj h) (by simp)⟩

/-- Extensions that overlap. -/
def overlapping : ExtensionTable := ⟨[".h".toList], [".c".toList, ".h".toList], []⟩

/-- A header, and in a directory below a source that includes it. -/
def sourceBelowHeader : Surroundings where
  fs := (FileSystem.empty.put (Path.ofText "/p/a.h".toList).components { entry := .file [] }).put
    (Path.ofText "/p/q/b.c".toList).components { entry := .file (Text.Utf8.encode "#include \"../a.h\"\n".toList) }
  cwd := Path.root

/-- A script that reports the header first, and then a file that is nowhere. -/
def headerThenNowhere : Script where
  events := [⟨Path.ofText "/p/a.h".toList, "#include \"a.h\"".toList⟩,
    ⟨Path.ofText "/r/c.c".toList, "#include \"a.h\"".toList⟩]
  ending := .done

/-- With the script the companion is somewhere else, with a walk it is below the header.  The header is never its own
companion, though its extension is one of a source too. -/
theorem companion_isOpposite_sourceBelowHeader :
    sourceBelowHeader.cwd.IsWorkingDirectory ∧
    (Argument.text "/p/a.h".toList).require "path" sourceBelowHeader.cwd = .ok (Path.ofText "/p/a.h".toList) ∧
    (Argument.text "/p".toList).require "project_root" sourceBelowHeader.cwd = .ok (Path.ofText "/p".toList) ∧
    (companion sourceBelowHeader overlapping (some (.scripted headerThenNowhere)) none (.text "/p/a.h".toList)
      (.text "/p".toList)).result = .ok (some (Path.ofText "/r/c.c".toList)) ∧
    overlapping.role (Path.ofText "/r/c.c".toList).text
      = (overlapping.role (Path.ofText "/p/a.h".toList).text).counterpart ∧
    (companion sourceBelowHeader overlapping (some .walk) none (.text "/p/a.h".toList) (.text "/p".toList)).result
      = .ok (some (Path.ofText "/p/q/b.c".toList)) ∧
    (Path.ofText "/p/q/b.c".toList).IsBelow (Path.ofText "/p/a.h".toList).parent := by
  have hcwd : sourceBelowHeader.cwd.IsWorkingDirectory := by
    refine ⟨rfl, ?_⟩
    unfold Path.IsNulFree
    decide
  have hfile : (Argument.text "/p/a.h".toList).require "path" sourceBelowHeader.cwd
      = .ok (Path.ofText "/p/a.h".toList) := rfl
  have hproject : (Argument.text "/p".toList).require "project_root" sourceBelowHeader.cwd
      = .ok (Path.ofText "/p".toList) := rfl
  have hscripted : (companion sourceBelowHeader overlapping (some (.scripted headerThenNowhere)) none
      (.text "/p/a.h".toList) (.text "/p".toList)).result = .ok (some (Path.ofText "/r/c.c".toList)) := by
    decide +kernel
  have hwalked : (companion sourceBelowHeader overlapping (some .walk) none (.text "/p/a.h".toList)
      (.text "/p".toList)).result = .ok (some (Path.ofText "/p/q/b.c".toList)) := by
    decide +kernel
  have hsearched : (companion sourceBelowHeader overlapping (some .walk) none (.text "/p/a.h".toList)
      (.text "/p".toList)).scan ≠ none := by
    rw [← Option.isSome_iff_ne_none]
    decide +kernel
  obtain ⟨-, hopposite⟩ :=
    companion_isOpposite hcwd hfile hproject overlapping (some (.scripted headerThenNowhere)) none
  obtain ⟨-, hbelow⟩ := companion_isOpposite hcwd hfile hproject overlapping (some .walk) none
  refine ⟨hcwd, hfile, hproject, hscripted, (hopposite _ hscripted).role, hwalked, ?_⟩
  have hcomes := (hbelow _ hwalked).comesFrom
  generalize (companion sourceBelowHeader overlapping (some .walk) none (.text "/p/a.h".toList)
    (.text "/p".toList)).scan = scan at hcomes hsearched
  cases hcomes with
  | sibling => exact absurd rfl hsearched
  | framework => exact absurd rfl hsearched
  | search _ hbelow => exact hbelow rfl

end Lookup

end Counterpart
