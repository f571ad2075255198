import Counterpart.Proofs.Lookup.Results
import Counterpart.Proofs.Scan.Searcher
import Counterpart.Proofs.Scan.Walk

/-!
# Lookups that raise

With arguments that are accepted, the lookup of a header always says what it has found, and that of a source does
so too, with two exceptions: a limit that cannot be kept, and a line of the searcher's output that cannot be made sense
of.

* `Raises` says which errors a lookup of a source ends with;
* `result_source_eq_error_iff`: it ends with these errors and with no others;
* `lookups_raise_iff`: the three lookups, for arguments as a caller gives them.
-/

namespace Counterpart

open Include

variable {around : Surroundings} {table : ExtensionTable} {header project : Path}

namespace Search

/-! ## Scans -/

/-- A search that walks fails only if its walk does. -/
lemma isSearchFailure_of_pull_walk {query : Query} {scan : Walk.Scan} {e : ScanError}
    (h : (pull query table (.walk scan) []).reply = .failed e) : e.isSearchFailure = true := by
  obtain ⟨-, hend⟩ := Walk.drain_walk scan.root scan.rest
  cases hfind : (Feed.drain (Counterpart.Scan.walk scan)).1.find? (takes query table) with
  | some m => exact absurd ((pull_of_find? [] hfind).symm.trans h) (by simp)
  | none =>
    -- the search ends as the walk does
    rw [(pull_of_none [] hfind).1, hend] at h
    unfold Walk.endOf at h
    split at h
    · obtain rfl := Reply.failed.inj h
      rfl
    · exact nomatch h

/-- The scan of a query with the line searcher. -/
def searcherScan (query : Query) (pattern : Text) (nesting : Nat) (launch : Ripgrep.Launch) : Counterpart.Scan :=
  .ripgrep (.fresh query.directory pattern nesting launch)

variable {query : Query} {pattern : Text} {nesting : Nat} {output : Ripgrep.Output}

/-- A search for a query with the line searcher, before it has begun. -/
def withSearcher (query : Query) (table : ExtensionTable) (pattern : Text) (nesting : Nat) (launch : Ripgrep.Launch) :
    Search :=
  ⟨query, table, searcherScan query pattern nesting launch, .searching⟩

/-- A search whose searcher cannot be started fails as a search. -/
lemma isSearchFailure_of_pull_refused {fault : Fault} {e : ScanError}
    (h : (pull query table (searcherScan query pattern nesting (.refused fault)) []).reply = .failed e) :
    e.isSearchFailure = true := by
  have hdrain : Feed.drain (searcherScan query pattern nesting (.refused fault)) = _ :=
    Ripgrep.Scan.drain_refused query.directory pattern nesting fault
  have hfind : (Feed.drain (searcherScan query pattern nesting (.refused fault))).1.find? (takes query table)
      = none := by
    rw [hdrain]
    rfl
  rw [(pull_of_none [] hfind).1, hdrain] at h
  obtain rfl := Reply.failed.inj h
  rfl

/-- An output that breaks a search off makes it fail, and the scan has been left then. -/
lemma pull_of_breakOff (pattern : Text) {e : ScanError}
    (h : Ripgrep.BreakOff nesting query.directory (takes query table) output.reads e) :
    (pull query table (searcherScan query pattern nesting (.runs output)) []).reply = .failed e ∧
      (pull query table (searcherScan query pattern nesting (.runs output)) []).state
        = .ripgrep (Ripgrep.Scan.fresh query.directory pattern nesting (.runs output)).start.leave := by
  have hdrained := Ripgrep.Scan.isDrained_fresh query.directory pattern nesting output
  obtain ⟨herror, hfind⟩ := Ripgrep.breakOff_iff.1 h
  obtain ⟨hreply, hstate⟩ := hdrained.failed _ herror
  obtain ⟨hend, hlast⟩ := pull_of_none [] (hdrained.values ▸ hfind)
  exact ⟨hend.trans (congrArg ending hreply), hlast.trans hstate⟩

/-- If a search fails otherwise than as a search, the searcher's output has broken it off. -/
lemma breakOff_of_pull {e : ScanError}
    (h : (pull query table (searcherScan query pattern nesting (.runs output)) []).reply = .failed e)
    (hfailure : e.isSearchFailure = false) :
    Ripgrep.BreakOff nesting query.directory (takes query table) output.reads e := by
  have hdrained := Ripgrep.Scan.isDrained_fresh query.directory pattern nesting output
  cases hfind : (Ripgrep.matchesOf nesting query.directory output.reads).find? (takes query table) with
  | some m =>
    have hvalue := pull_of_find? [] (hdrained.values ▸ hfind)
    exact absurd (hvalue.symm.trans h) (by simp)
  | none =>
    have hend := (pull_of_none [] (hdrained.values ▸ hfind)).1
    cases herror : Ripgrep.errorOf nesting query.directory output.reads with
    | some e' =>
      have hreply := (hdrained.failed e' herror).1
      obtain rfl : e' = e := Reply.failed.inj ((congrArg ending hreply).symm.trans (hend.symm.trans h))
      exact Ripgrep.breakOff_iff.2 ⟨herror, hfind⟩
    | none =>
      -- an output that can be read to its end leads to no failure, or to one of the search
      have hreply : ending (Ripgrep.endOf output _) = .failed e :=
        (congrArg ending (hdrained.ended herror)).symm.trans (hend.symm.trans h)
      unfold Ripgrep.endOf at hreply
      split at hreply
      · exact nomatch hreply
      · split at hreply
        · exact nomatch hreply
        · obtain rfl := Reply.failed.inj hreply
          exact absurd hfailure (by simp [ScanError.isSearchFailure])

end Search

namespace Lookup

/-! ## Searches -/

/-- A search that walks never ends with an error. -/
lemma result_firstWithin_walk (table : ExtensionTable) (query : Query) (scan : Walk.Scan) (limit : TimeLimit)
    (notes : Journal) (error : LookupError) :
    (firstWithin limit ⟨query, table, .walk scan, .searching⟩ notes).result ≠ .error error := by
  intro h
  have hcomes : ComesTo ⟨query, table, .walk scan, .searching⟩ _ := comesTo_firstWithin rfl limit notes
  rw [h] at hcomes
  cases hcomes with
  | broken hreply hfailure =>
    rw [Search.isSearchFailure_of_pull_walk hreply] at hfailure
    exact nomatch hfailure

/-- Whether a search with the line searcher comes to anything within a limit: one that is no number is over as soon as
the searcher has to be waited for. -/
def IsInTime (limit : TimeLimit) (output : Ripgrep.Output) : Prop := limit.isNaN = false ∨ output.atOnce = true

/-- Then the limit makes no difference to what the search comes to. -/
lemma turnWithin_of_isInTime {query : Query} {pattern : Text} {nesting : Nat} {output : Ripgrep.Output}
    {limit : TimeLimit} (h : IsInTime limit output) :
    turnWithin limit (Search.withSearcher query table pattern nesting (.runs output))
      = Search.next (Search.withSearcher query table pattern nesting (.runs output)) := by
  rcases h with hlimit | hatOnce
  · exact turnWithin_of_not_isNaN hlimit _
  · apply turnWithin_eq_next
    show (Ripgrep.Scan.nextAtOnce _).mapState Counterpart.Scan.ripgrep = _
    unfold Ripgrep.Scan.nextAtOnce
    dsimp only [Ripgrep.Scan.fresh]
    rw [if_pos hatOnce]
    rfl

/-- Otherwise the search finds nothing. -/
lemma result_firstWithin_of_not_isInTime {query : Query} {pattern : Text} {nesting : Nat} {output : Ripgrep.Output}
    {limit : TimeLimit} (h : ¬ IsInTime limit output) (notes : Journal) :
    (firstWithin limit (Search.withSearcher query table pattern nesting (.runs output)) notes).result = .ok none := by
  obtain ⟨hlimit, hatOnce⟩ := not_or.mp h
  apply result_firstWithin_of_blocked rfl (by simpa using hlimit)
  show (Ripgrep.Scan.nextAtOnce _).reply = _
  unfold Ripgrep.Scan.nextAtOnce
  dsimp only [Ripgrep.Scan.fresh]
  rw [if_neg hatOnce]

/-- A search with the line searcher ends with an error only if the searcher's output breaks it off in time. -/
lemma breakOff_of_result_firstWithin {query : Query} {pattern : Text} {nesting : Nat} {launch : Ripgrep.Launch}
    {limit : TimeLimit} {notes : Journal} {error : LookupError}
    (h : (firstWithin limit (Search.withSearcher query table pattern nesting launch) notes).result = .error error) :
    ∃ e output, error = .scan e ∧ launch = .runs output ∧ IsInTime limit output ∧
      Ripgrep.BreakOff nesting query.directory (Search.takes query table) output.reads e := by
  have hinTime : ∀ output, launch = .runs output → IsInTime limit output := by
    intro output hlaunch
    by_contra hlate
    rw [hlaunch, result_firstWithin_of_not_isInTime hlate] at h
    exact nomatch h
  have hcomes : ComesTo (Search.withSearcher query table pattern nesting launch) _ :=
    comesTo_firstWithin rfl limit notes
  rw [h] at hcomes
  cases hcomes with
  | broken hreply hfailure =>
    cases launch with
    | refused fault =>
      rw [Search.isSearchFailure_of_pull_refused hreply] at hfailure
      exact nomatch hfailure
    | runs output => exact ⟨_, output, rfl, rfl, hinTime output rfl, Search.breakOff_of_pull hreply hfailure⟩

/-- A scan that is left before the end of the output has not waited for it. -/
lemma hasWaited_leave (root : Path) (pattern : Text) (nesting : Nat) (output : Ripgrep.Output) :
    hasWaited (Counterpart.Scan.ripgrep
      (Ripgrep.Scan.fresh root pattern nesting (.runs output)).start.leave).close = false := by
  have hleave : (Ripgrep.Scan.fresh root pattern nesting (.runs output)).start.leave.acts
      = [.start] ++ Ripgrep.Scan.lastActs (.runs output) := Ripgrep.Scan.acts_leave (.inl rfl)
  have hlast : Ripgrep.Act.readEnd ∉ Ripgrep.Scan.lastActs (.runs output) := by
    unfold Ripgrep.Scan.lastActs
    dsimp only
    split <;> simp
  show (Ripgrep.Scan.fresh root pattern nesting (.runs output)).start.leave.acts.contains .readEnd = false
  rw [hleave]
  simpa using hlast

/-- A search that the searcher's output breaks off in time ends with an error. -/
lemma result_firstWithin_of_breakOff {query : Query} {nesting : Nat} {output : Ripgrep.Output} {e : ScanError}
    {limit : TimeLimit} (hinTime : IsInTime limit output)
    (h : Ripgrep.BreakOff nesting query.directory (Search.takes query table) output.reads e) (pattern : Text)
    (notes : Journal) :
    (firstWithin limit (Search.withSearcher query table pattern nesting (.runs output)) notes).result
      = .error (.scan e) := by
  obtain ⟨hreply, hstate⟩ := Search.pull_of_breakOff pattern h
  have hfailure : e.isSearchFailure = false := Ripgrep.isSearchFailure_of_errorOf (Ripgrep.breakOff_iff.1 h).1
  rw [result_firstWithin rfl (turnWithin_of_isInTime hinTime)]
  unfold Search.withSearcher
  dsimp only
  rw [hreply, hstate]
  dsimp only
  rw [hasWaited_leave, Bool.and_false, if_neg Bool.false_ne_true, hfailure, if_neg Bool.false_ne_true]

/-! ## Lookups of sources -/

/-- A lookup of a source has to search, as there is no sibling, and its limit leaves time for that. -/
structure BeginsSearch (around : Surroundings) (table : ExtensionTable) (limit : TimeLimit) (header : Path) : Prop where
  noSibling : (around.fs.filesIn around.cwd header.parent).find? (sourceProbe table header).accepts = none
  notOver : limit.isOver = false

/-- What a lookup of a source raises that has to search: its limit cannot be kept, or a line of the searcher's output
breaks the search off, in time. -/
inductive Raises (around : Surroundings) (table : ExtensionTable) (scanner : Option Scanner) (limit : TimeLimit)
    (header project : Path) : LookupError → Prop
  | limit (fault : TimeLimit.Fault) (begins : BeginsSearch around table limit header)
      (unkept : limit.fault? = some fault) : Raises around table scanner limit header project (.limit fault)
  | event (e : ScanError) (output : Ripgrep.Output) (begins : BeginsSearch around table limit header)
      (kept : limit.fault? = none) (searcher : Search.chosenScanner around scanner = .ripgrep)
      (runs : around.launch = .runs output) (inTime : IsInTime limit output)
      (breaks : Ripgrep.BreakOff around.nesting header.parent
        (Search.takes (Query.forHeader header project around.cwd) table) output.reads e) :
      Raises around table scanner limit header project (.scan e)

lemma Raises.begins {scanner : Option Scanner} {limit : TimeLimit} {error : LookupError}
    (h : Raises around table scanner limit header project error) : BeginsSearch around table limit header := by
  cases h with
  | limit fault begins => exact begins
  | event e output begins => exact begins

/-- The search of a lookup ends with an error exactly if the searcher's output breaks it off in time. -/
lemma result_search_eq_error_iff (around : Surroundings) (table : ExtensionTable) (header project : Path)
    {scanner : Option Scanner} (hscanner : ∀ script, scanner ≠ some (.scripted script)) (limit : TimeLimit)
    (error : LookupError) :
    (firstWithin limit (Search.create around header project table scanner defaultDirectives).1
        (Search.create around header project table scanner defaultDirectives).2).result = .error error ↔
      Search.chosenScanner around scanner = .ripgrep ∧
        ∃ e output, error = .scan e ∧ around.launch = .runs output ∧ IsInTime limit output ∧
          Ripgrep.BreakOff around.nesting header.parent
            (Search.takes (Query.forHeader header project around.cwd) table) output.reads e := by
  let query := Query.forHeader header project around.cwd
  obtain ⟨notes, hcreate⟩ := Search.create_eq around header project table scanner defaultDirectives
  rw [hcreate]
  cases hchosen : Search.chosenScanner around scanner with
  | ripgrep =>
    constructor
    · exact fun h => ⟨rfl, breakOff_of_result_firstWithin h⟩
    · intro ⟨_, e, output, herror, hruns, hinTime, hbreaks⟩
      subst herror
      have hscan : Scanner.scan around query.directory query.pattern .ripgrep
          = Search.searcherScan query query.pattern.source around.nesting (.runs output) := by
        rw [← hruns]
        rfl
      show (firstWithin limit ⟨query, table, Scanner.scan around query.directory query.pattern .ripgrep, .searching⟩
        notes).result = _
      rw [hscan]
      exact result_firstWithin_of_breakOff hinTime hbreaks query.pattern.source notes
  | walk =>
    have hsearch := result_firstWithin_walk table query
      (.start around.fs around.cwd query.directory query.pattern.isFoundIn) limit notes error
    constructor
    · exact fun h => absurd h hsearch
    · exact fun h => nomatch h.1
  | scripted script => exact absurd hchosen (Search.chosenScanner_ne_scripted around hscanner script)

/-- The search that a lookup begins raises exactly what `Raises` says. -/
lemma result_searchSource_eq_error_iff {scanner : Option Scanner} {limit : TimeLimit}
    (hscanner : ∀ script, scanner ≠ some (.scripted script)) (hbegins : BeginsSearch around table limit header)
    (error : LookupError) :
    (searchSource around table scanner limit header project).result = .error error ↔
      Raises around table scanner limit header project error := by
  have hsearch := result_search_eq_error_iff around table header project hscanner limit error
  have hnotOver : ¬ limit.isOver = true := ne_true_of_eq_false hbegins.notOver
  unfold searchSource
  rw [if_neg hnotOver]
  cases hfault : limit.fault? with
  | some fault =>
    constructor
    · intro h
      obtain rfl := Except.error.inj h
      exact .limit fault hbegins hfault
    · intro h
      cases h with
      | limit fault' _ unkept =>
        obtain rfl := Option.some.inj (hfault.symm.trans unkept)
        rfl
      | event _ _ _ kept => exact nomatch hfault.symm.trans kept
  | none =>
    refine Iff.trans hsearch ?_
    constructor
    · intro ⟨hsearcher, e, output, herror, hruns, hinTime, hbreaks⟩
      subst herror
      exact .event e output hbegins hfault hsearcher hruns hinTime hbreaks
    · intro h
      cases h with
      | limit _ _ unkept => exact nomatch hfault.symm.trans unkept
      | event e output _ _ searcher runs inTime breaks => exact ⟨searcher, e, output, rfl, runs, inTime, breaks⟩

/-- A lookup of a source that need not search, or has no time to, raises nothing. -/
lemma result_source_of_not_begins (scanner : Option Scanner) {limit : Option TimeLimit} (project : Path)
    (hcwd : around.cwd.IsNulFree) (hheader : header.IsNulFree)
    (h : ¬ BeginsSearch around table (limit.getD .default) header) :
    ∃ found, (source around table scanner limit header project).result = .ok found := by
  rw [result_source table scanner limit project hcwd hheader]
  cases hsibling : (around.fs.filesIn around.cwd header.parent).find? (sourceProbe table header).accepts with
  | some sibling => exact ⟨some sibling, rfl⟩
  | none =>
    have hover : (limit.getD .default).isOver = true := by
      by_contra hnotOver
      exact h ⟨hsibling, eq_false_of_ne_true hnotOver⟩
    refine ⟨none, ?_⟩
    dsimp only
    unfold searchSource
    rw [if_pos hover]

/-- A lookup of a source raises exactly what `Raises` says. -/
theorem result_source_eq_error_iff (table : ExtensionTable) {scanner : Option Scanner} (limit : Option TimeLimit)
    (project : Path) (hcwd : around.cwd.IsNulFree) (hheader : header.IsNulFree)
    (hscanner : ∀ script, scanner ≠ some (.scripted script)) (error : LookupError) :
    (source around table scanner limit header project).result = .error error ↔
      Raises around table scanner (limit.getD .default) header project error := by
  -- without a search there is nothing that could raise
  by_cases hbegins : BeginsSearch around table (limit.getD .default) header
  · rw [result_source table scanner limit project hcwd hheader, hbegins.noSibling]
    exact result_searchSource_eq_error_iff hscanner hbegins error
  · obtain ⟨found, hfound⟩ := result_source_of_not_begins scanner project hcwd hheader hbegins
    rw [hfound]
    constructor
    · exact fun h => nomatch h
    · exact fun h => absurd h.begins hbegins

/-! ## Arguments -/

variable {fileArg projectArg : Argument} {file : Path} {name name' : String}

/-- With arguments that are accepted and a scanner of the program's own, the lookup of a header raises nothing, and
those of a source and of a companion raise exactly what `Raises` says. -/
theorem lookups_raise_iff {scanner : Option Scanner} (hcwd : around.cwd.IsWorkingDirectory)
    (hfile : fileArg.require name around.cwd = .ok file)
    (hproject : projectArg.require name' around.cwd = .ok project)
    (hscanner : ∀ script, scanner ≠ some (.scripted script)) (table : ExtensionTable) (limit : Option TimeLimit)
    (error : LookupError) :
    (headerForSource around table fileArg).result ≠ .error error ∧
    ((sourceForHeader around table scanner limit fileArg projectArg).result = .error error ↔
      Raises around table scanner (limit.getD .default) file project error) ∧
    ((companion around table scanner limit fileArg projectArg).result = .error error ↔
      table.role file.text = .header ∧ Raises around table scanner (limit.getD .default) file project error) := by
  have hnul : file.IsNulFree := Argument.isNulFree_of_require hcwd.nulFree hfile
  have hheader : (Lookup.header around table file).result ≠ .error error := by
    rw [result_header table hcwd.nulFree hnul]
    exact fun h => nomatch h
  have hsource := result_source_eq_error_iff table limit project hcwd.nulFree hnul hscanner error
  refine ⟨?_, ?_, ?_⟩
  · rwa [headerForSource_eq hfile]
  · rwa [sourceForHeader_eq hfile hproject]
  · rw [companion_eq hcwd hfile hproject]
    cases table.role file.text with
    | header => exact hsource.trans ⟨fun h => ⟨rfl, h⟩, fun h => h.2⟩
    | source => exact ⟨fun h => absurd h hheader, fun h => absurd h.1 (by simp)⟩
    | other => exact ⟨fun h => absurd h (by simp), fun h => absurd h.1 (by simp)⟩

/-- An event with a number where its path belongs. -/
def numberedEvent : Bytes :=
  Text.Utf8.encode
    "\x7b\"type\":\"match\",\"data\":\x7b\"path\":\x7b\"text\":5\x7d,\"lines\":\x7b\"text\":\"x\"\x7d\x7d\x7d\n".toList

/-- A header without a sibling, and a searcher that writes such an event. -/
def numberForPath : Surroundings where
  fs := FileSystem.empty.put (Path.ofText "/p/a.h".toList).components { entry := .file [] }
  cwd := Path.root
  launch := .runs { pieces := [numberedEvent] }

/-- The event breaks off the search for a source, and with it that for a companion. -/
theorem lookups_raise_numberForPath :
    numberForPath.cwd.IsWorkingDirectory ∧
    (Argument.text "/p/a.h".toList).require "header" numberForPath.cwd = .ok (Path.ofText "/p/a.h".toList) ∧
    (Argument.text "/p".toList).require "project_root" numberForPath.cwd = .ok (Path.ofText "/p".toList) ∧
    (sourceForHeader numberForPath .default (some .ripgrep) none (.text "/p/a.h".toList) (.text "/p".toList)).result
      = .error (.scan (.eventPath "int")) ∧
    (companion numberForPath .default (some .ripgrep) none (.text "/p/a.h".toList) (.text "/p".toList)).result
      = .error (.scan (.eventPath "int")) := by
  have hcwd : numberForPath.cwd.IsWorkingDirectory := by
    refine ⟨rfl, ?_⟩
    unfold Path.IsNulFree
    decide
  have hfile : (Argument.text "/p/a.h".toList).require "header" numberForPath.cwd
      = .ok (Path.ofText "/p/a.h".toList) := rfl
  have hproject : (Argument.text "/p".toList).require "project_root" numberForPath.cwd
      = .ok (Path.ofText "/p".toList) := rfl
  obtain ⟨-, hsource, hcompanion⟩ := lookups_raise_iff hcwd hfile hproject
    (fun script h => nomatch (h : some Scanner.ripgrep = _)) .default none (.scan (.eventPath "int"))
  have hbreaks : Ripgrep.BreakOff numberForPath.nesting (Path.ofText "/p/a.h".toList).parent
      (Search.takes (Query.forHeader (Path.ofText "/p/a.h".toList) (Path.ofText "/p".toList) numberForPath.cwd)
        .default)
      (Ripgrep.Output.reads { pieces := [numberedEvent] }) (.eventPath "int") :=
    Ripgrep.breakOff_iff.2 ⟨by decide +kernel, by decide +kernel⟩
  have hraises : Raises numberForPath .default (some .ripgrep) .default (Path.ofText "/p/a.h".toList)
      (Path.ofText "/p".toList) (.scan (.eventPath "int")) := by
    refine .event _ _ ⟨?_, ?_⟩ ?_ rfl rfl (.inl ?_) hbreaks
    · decide +kernel
    · decide +kernel
    · decide +kernel
    · decide +kernel
  refine ⟨hcwd, hfile, hproject, hsource.2 hraises, hcompanion.2 ⟨?_, hraises⟩⟩
  decide +kernel

end Lookup

end Counterpart
