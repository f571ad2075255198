import Counterpart.Lookup
import Counterpart.Proofs.FileSystem.Listing
import Counterpart.Proofs.Scan.Drain

/-!
# What lookups report

A probe of directories whose paths hold no NUL never fails, and gives the first file in them that it accepts.  A
search gives what its scan leads to, as far as its limit allows.

* `Probe.run_eq` and `Probe.runAll_eq`: a probe of one directory, and of several;
* `Lookup.result_header` and `Lookup.result_source`: the lookup of a header, which does nothing but probe, and that
  of a source, which searches if there is no sibling;
* `Lookup.result_firstWithin` and `Lookup.ComesTo`: a search with a time limit;
* `Lookup.headerForSource_eq`, `Lookup.sourceForHeader_eq` and `Lookup.companion_eq`: the lookups, for arguments
  that are accepted.
-/

namespace Counterpart

/-! ## Probes -/

variable {fs : FileSystem} {cwd : Path}

namespace Probe

lemma accepts_iff {probe : Probe} {file : Path} :
    probe.accepts file = true ↔
      probe.table.role file.text = probe.role ∧ probe.table.basename file.text = probe.basename := by
  unfold accepts
  rw [Bool.and_eq_true, decide_eq_true_iff, decide_eq_true_iff]

/-- A probe gives the first file of the directory that it accepts. -/
lemma run_eq (probe : Probe) (fs : FileSystem) {dir : Path} (hcwd : cwd.IsNulFree) (hdir : dir.IsNulFree) :
    ∃ notes, probe.run fs cwd dir = .ok ((fs.filesIn cwd dir).find? probe.accepts, notes) := by
  obtain ⟨notes, hlisting⟩ := fs.listing_eq hcwd hdir
  refine ⟨notes, ?_⟩
  unfold run
  rw [hlisting]
  rfl

/-- A probe of several directories gives the first file that it accepts, those of earlier directories first. -/
lemma runAll_eq (probe : Probe) (fs : FileSystem) (hcwd : cwd.IsNulFree) {dirs : List Path}
    (hdirs : ∀ dir ∈ dirs, dir.IsNulFree) :
    ∃ notes, probe.runAll fs cwd dirs = .ok ((dirs.flatMap (fs.filesIn cwd)).find? probe.accepts, notes) := by
  induction dirs with
  | nil => exact ⟨[], rfl⟩
  | cons dir rest ih =>
    obtain ⟨notes, hrun⟩ := probe.run_eq fs hcwd (hdirs dir List.mem_cons_self)
    obtain ⟨more, hrest⟩ := ih fun dir' hdir' => hdirs dir' (List.mem_cons_of_mem dir hdir')
    rw [runAll, hrun, List.flatMap_cons, List.find?_append]
    cases hfind : (fs.filesIn cwd dir).find? probe.accepts with
    | some file => exact ⟨notes, rfl⟩
    | none =>
      -- the notes of the first directory come before those of the others
      refine ⟨notes ++ more, ?_⟩
      show (probe.runAll fs cwd rest >>= fun found => pure (found.1, notes ++ found.2)) = _
      rw [hrest]
      rfl

end Probe

/-! ## Searches -/

namespace Search

/-- The scanner of a search that was given one or none. -/
def chosenScanner (around : Surroundings) : Option Scanner → Scanner
  | some scanner => scanner
  | none => (Tool.auto.scanner around).1

lemma chosenScanner_ne_scripted (around : Surroundings) {scanner : Option Scanner}
    (h : ∀ script, scanner ≠ some (.scripted script)) (script : Script) :
    chosenScanner around scanner ≠ .scripted script := by
  cases scanner with
  | some scanner => exact fun hscripted => h script (congrArg some hscripted)
  | none =>
    show (if around.installed then _ else _ : Scanner × Journal).1 ≠ _
    split <;> exact fun hscripted => nomatch hscripted

lemma create_eq (around : Surroundings) (header project : Path) (table : ExtensionTable) (scanner : Option Scanner)
    (directives : List Text) :
    ∃ notes, create around header project table scanner directives =
      (⟨Include.Query.forHeader header project around.cwd directives, table,
        (chosenScanner around scanner).scan around
          (Include.Query.forHeader header project around.cwd directives).directory
          (Include.Query.forHeader header project around.cwd directives).pattern, .searching⟩, notes) := by
  cases scanner with
  | some scanner => exact ⟨_, rfl⟩
  | none => exact ⟨_, rfl⟩

lemma ofArguments_eq {around : Surroundings} {headerArg projectArg : Argument} {header project : Path}
    (hheader : headerArg.require "header" around.cwd = .ok header)
    (hproject : projectArg.require "project_root" around.cwd = .ok project) (table : ExtensionTable)
    (scanner : Option Scanner) (directives : List Text) :
    ofArguments around headerArg projectArg table scanner directives
      = .ok (create around header project table scanner directives) := by
  unfold ofArguments
  rw [hheader, hproject]
  rfl

/-- A search for arguments is one for the paths that they stand for. -/
lemma ofArguments_eq_ok {around : Surroundings} {headerArg projectArg : Argument} {table : ExtensionTable}
    {scanner : Option Scanner} {directives : List Text} {search : Search} {notes : Journal}
    (h : ofArguments around headerArg projectArg table scanner directives = .ok (search, notes)) :
    ∃ header project, headerArg.require "header" around.cwd = .ok header ∧
      projectArg.require "project_root" around.cwd = .ok project ∧
      create around header project table scanner directives = (search, notes) := by
  cases hheader : headerArg.require "header" around.cwd with
  | error e => simp [ofArguments, hheader, bind, Except.bind] at h
  | ok header =>
    cases hproject : projectArg.require "project_root" around.cwd with
    | error e => simp [ofArguments, hheader, hproject, bind, Except.bind] at h
    | ok project =>
      rw [ofArguments_eq hheader hproject] at h
      exact ⟨header, project, rfl, rfl, Except.ok.inj h⟩

end Search

namespace Lookup

/-! ## Results -/

lemma mem_headerDirectories {source dir : Path} :
    dir ∈ headerDirectories source ↔ dir = source.parent ∨
      ∃ framework, Framework.ofDirectory? source.parent = some framework ∧ dir ∈ framework.headerDirectories := by
  unfold headerDirectories
  rw [List.mem_cons]
  cases Framework.ofDirectory? source.parent with
  | none => simp
  | some framework => simp

lemma isNulFree_headerDirectories {source : Path} (h : source.IsNulFree) :
    ∀ dir ∈ headerDirectories source, dir.IsNulFree := by
  intro dir hdir
  rcases mem_headerDirectories.mp hdir with rfl | ⟨framework, hframework, hdir⟩
  · exact h.parent
  · exact Framework.isNulFree_headerDirectories (Framework.isNulFree_ofDirectory? h.parent hframework) dir hdir

/-- The probe for the header of a source. -/
def headerProbe (table : ExtensionTable) (source : Path) : Probe := ⟨table.basename source.text, .header, table⟩

/-- The probe for the source of a header. -/
def sourceProbe (table : ExtensionTable) (header : Path) : Probe := ⟨table.basename header.text, .source, table⟩

variable {around : Surroundings}

/-- The header of a source is the first file in the directories of headers that the probe accepts. -/
theorem result_header (table : ExtensionTable) {source : Path} (hcwd : around.cwd.IsNulFree)
    (hsource : source.IsNulFree) :
    (header around table source).result = .ok (((headerDirectories source).flatMap
      (around.fs.filesIn around.cwd)).find? (headerProbe table source).accepts) := by
  obtain ⟨notes, hrun⟩ := (headerProbe table source).runAll_eq around.fs hcwd
    (isNulFree_headerDirectories hsource)
  unfold header
  show (Report.ofProbe ((headerProbe table source).runAll around.fs around.cwd (headerDirectories source))).result = _
  rw [hrun]
  rfl

/-- The header of a source is listed in one of the directories of headers, and is what the probe looks for. -/
lemma mem_filesIn_of_result_header {table : ExtensionTable} {source found : Path} (hcwd : around.cwd.IsNulFree)
    (hsource : source.IsNulFree) (h : (header around table source).result = .ok (some found)) :
    (∃ dir ∈ headerDirectories source, found ∈ around.fs.filesIn around.cwd dir) ∧
      (headerProbe table source).accepts found = true := by
  rw [result_header table hcwd hsource] at h
  have hfind := Except.ok.inj h
  exact ⟨List.mem_flatMap.mp (List.mem_of_find?_eq_some hfind), List.find?_some hfind⟩

/-- What the probe beside a header leads to. -/
lemma source_of_run {table : ExtensionTable} {header : Path} {sibling : Option Path} {notes : Journal}
    (hrun : (sourceProbe table header).run around.fs around.cwd header.parent = .ok (sibling, notes))
    (scanner : Option Scanner) (limit : Option TimeLimit) (project : Path) :
    source around table scanner limit header project =
      sibling.elim ((searchSource around table scanner (limit.getD .default) header project).after notes)
        fun file => { result := .ok (some file), notes := notes } := by
  have hprobe : Probe.mk (table.basename header.text) .source table = sourceProbe table header := rfl
  unfold source
  dsimp only
  rw [hprobe, hrun]
  cases sibling <;> rfl

/-- The source of a header is the first file beside it that the probe accepts; else it is searched for. -/
theorem result_source (table : ExtensionTable) (scanner : Option Scanner) (limit : Option TimeLimit)
    {header : Path} (project : Path) (hcwd : around.cwd.IsNulFree) (hheader : header.IsNulFree) :
    (source around table scanner limit header project).result =
      match (around.fs.filesIn around.cwd header.parent).find? (sourceProbe table header).accepts with
      | some sibling => .ok (some sibling)
      | none => (searchSource around table scanner (limit.getD .default) header project).result := by
  obtain ⟨notes, hrun⟩ := (sourceProbe table header).run_eq around.fs hcwd hheader.parent
  rw [source_of_run hrun]
  cases (around.fs.filesIn around.cwd header.parent).find? (sourceProbe table header).accepts with
  | some sibling => rfl
  | none => rfl

lemma runsOut_of_ne_blocked {limit : TimeLimit} {turn : Turn Search (Option Path)} (h : turn.reply ≠ .blocked) :
    runsOut limit turn = (limit.isNaN && hasWaited turn.state.scan) := by
  unfold runsOut
  rw [decide_eq_false h, Bool.false_or]

/-- A search whose scan answers at once as ever is itself answered as ever, whatever the limit. -/
lemma turnWithin_eq_next {search : Search} (h : search.scan.nextAtOnce = search.scan.next) (limit : TimeLimit) :
    turnWithin limit search = search.next := by
  unfold turnWithin
  split
  · unfold Search.nextAtOnce
    rw [h]
    dsimp only
    split
    · next hblocked =>
      obtain ⟨hphase, hreply⟩ := hblocked
      have hnone : ∀ m, (Feed.next search.scan).reply ≠ .value m := fun m hm => nomatch hreply.symm.trans hm
      have hending : Search.ending search.scan.next.reply = .blocked := by rw [hreply]; rfl
      unfold Search.next
      rw [hphase]
      dsimp only
      rw [Search.pull_of_no_value hnone, show Search.ending (Feed.next search.scan).reply = .blocked from hending]
      rfl
    · rfl
  · rfl

/-- A limit that is a number makes no difference to what a search comes to. -/
lemma turnWithin_of_not_isNaN {limit : TimeLimit} (h : limit.isNaN = false) (search : Search) :
    turnWithin limit search = search.next := by
  unfold turnWithin
  rw [h, if_neg Bool.false_ne_true]

/-- A limit makes no difference to what a search comes to, unless it is no number and the scan does not answer at
once. -/
lemma turnWithin_cases (limit : TimeLimit) (search : Search) :
    turnWithin limit search = search.next ∨ limit.isNaN = true ∧ search.scan.nextAtOnce.reply = .blocked := by
  cases hlimit : limit.isNaN with
  | false => exact .inl (turnWithin_of_not_isNaN hlimit search)
  | true =>
    by_cases hblocked : search.scan.nextAtOnce.reply = .blocked
    · exact .inr ⟨rfl, hblocked⟩
    · refine .inl ?_
      unfold turnWithin Search.nextAtOnce
      rw [if_pos hlimit]
      exact if_neg fun h => hblocked h.2

/-- With a limit that is no number, a search whose scan does not answer at once finds nothing. -/
lemma result_firstWithin_of_blocked {search : Search} {limit : TimeLimit} (hphase : search.phase = .searching)
    (hlimit : limit.isNaN = true) (h : search.scan.nextAtOnce.reply = .blocked) (notes : Journal) :
    (firstWithin limit search notes).result = .ok none := by
  have hturn : (turnWithin limit search).reply = .blocked := by
    unfold turnWithin Search.nextAtOnce
    rw [if_pos hlimit]
    dsimp only
    rw [if_pos ⟨hphase, h⟩]
  have hover : runsOut limit (turnWithin limit search) = true := by
    unfold runsOut
    rw [hturn, decide_eq_true rfl, Bool.true_or]
  unfold firstWithin
  dsimp only
  rw [if_pos hover]

/-- What is reported of a search with a time limit that has not begun is what its scan leads to in time. -/
lemma result_firstWithin {search : Search} (h : search.phase = .searching) {limit : TimeLimit}
    (hturn : turnWithin limit search = search.next) (notes : Journal) :
    (firstWithin limit search notes).result =
      match (Search.pull search.query search.table search.scan []).reply with
      | .value source =>
        if limit.isNaN && hasWaited (Search.pull search.query search.table search.scan []).state then .ok none
        else .ok (some source)
      | .finished | .blocked => .ok none
      | .failed e =>
        if limit.isNaN && hasWaited (Search.pull search.query search.table search.scan []).state.close then .ok none
        else if e.isSearchFailure then .ok none
        else .error (.scan e) := by
  unfold firstWithin
  rw [hturn]
  unfold Search.next
  rw [h]
  dsimp only
  cases hreply : (Search.pull search.query search.table search.scan []).reply with
  | value source =>
    dsimp only
    rw [runsOut_of_ne_blocked (by simp)]
    split <;> rfl
  | finished =>
    dsimp only
    split <;> rfl
  | blocked => rfl
  | failed e =>
    dsimp only
    rw [runsOut_of_ne_blocked (by simp)]
    show (if (limit.isNaN && hasWaited (Search.pull search.query search.table search.scan []).state.close) = true
      then _ else _ : Report).result = _
    split
    · rfl
    · split <;> rfl

/-- What a search comes to within a time limit, if it has not begun before: to nothing, to a source, or to an error that
is no failure of a search. -/
inductive ComesTo (search : Search) : Except LookupError (Option Path) → Prop
  | nothing : ComesTo search (.ok none)
  | found {source : Path} (h : (Search.pull search.query search.table search.scan []).reply = .value source) :
      ComesTo search (.ok (some source))
  | broken {e : ScanError} (h : (Search.pull search.query search.table search.scan []).reply = .failed e)
      (hfailure : e.isSearchFailure = false) : ComesTo search (.error (.scan e))

/-- Whatever the limit, a search comes to nothing, or to what its scan leads to. -/
lemma comesTo_firstWithin {search : Search} (hphase : search.phase = .searching) (limit : TimeLimit)
    (notes : Journal) : ComesTo search (firstWithin limit search notes).result := by
  rcases turnWithin_cases limit search with hturn | ⟨hlimit, hblocked⟩
  · rw [result_firstWithin hphase hturn]
    cases hreply : (Search.pull search.query search.table search.scan []).reply with
    | value source =>
      dsimp only
      split
      · exact .nothing
      · exact .found hreply
    | finished => exact .nothing
    | blocked => exact .nothing
    | failed e =>
      dsimp only
      split
      · exact .nothing
      · split
        · exact .nothing
        · next hfailure => exact .broken hreply (eq_false_of_ne_true hfailure)
  · rw [result_firstWithin_of_blocked hphase hlimit hblocked]
    exact .nothing

/-- The scan of a search with a time limit is closed, whatever comes of it. -/
lemma scan_firstWithin (limit : TimeLimit) (search : Search) (notes : Journal) :
    (firstWithin limit search notes).scan = some (turnWithin limit search).state.close.scan := by
  unfold firstWithin
  dsimp only
  split
  · rfl
  · split
    · rfl
    · rfl
    · rfl
    · split <;> rfl

/-! ## Arguments -/

variable {fileArg projectArg : Argument} {file project : Path} {name name' : String}

lemma headerForSource_eq (h : fileArg.require name around.cwd = .ok file) (table : ExtensionTable) :
    headerForSource around table fileArg = Lookup.header around table file := by
  unfold headerForSource
  rw [Argument.require_congr "source" h]

lemma sourceForHeader_eq (hfile : fileArg.require name around.cwd = .ok file)
    (hproject : projectArg.require name' around.cwd = .ok project) (table : ExtensionTable)
    (scanner : Option Scanner) (limit : Option TimeLimit) :
    sourceForHeader around table scanner limit fileArg projectArg
      = source around table scanner limit file project := by
  unfold sourceForHeader
  rw [Argument.require_congr "header" hfile, Argument.require_congr "project_root" hproject]
  rfl

/-- A path that was accepted is accepted again by the lookup that it is handed to. -/
lemma require_again (hcwd : around.cwd.IsWorkingDirectory) (h : fileArg.require name around.cwd = .ok file)
    (name' : String) : (Argument.path file).require name' around.cwd = .ok file :=
  Argument.require_path (Argument.isNormal_of_require hcwd.absolute h) (Argument.isNulFree_of_require hcwd.nulFree h)
    name' around.cwd

/-- The companion of a file is its source if it is a header, and its header if it is a source. -/
lemma companion_eq (hcwd : around.cwd.IsWorkingDirectory) (hfile : fileArg.require name around.cwd = .ok file)
    (hproject : projectArg.require name' around.cwd = .ok project) (table : ExtensionTable)
    (scanner : Option Scanner) (limit : Option TimeLimit) :
    companion around table scanner limit fileArg projectArg =
      match table.role file.text with
      | .header => source around table scanner limit file project
      | .source => Lookup.header around table file
      | .other => { result := .ok none } := by
  have hsource := sourceForHeader_eq (require_again hcwd hfile name) hproject table scanner limit
  have hheader := headerForSource_eq (require_again hcwd hfile name) table
  unfold companion
  rw [Argument.require_congr "path" hfile]
  dsimp only
  cases table.role file.text with
  | header => exact hsource
  | source => exact hheader
  | other => rfl

end Lookup

end Counterpart
