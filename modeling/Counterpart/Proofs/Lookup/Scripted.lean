import Counterpart.Proofs.Lookup.Results
import Counterpart.Proofs.Search.Scripted
import Mathlib.Algebra.Group.Int.Defs

/-!
# Lookups of a source with a script

A lookup of a source takes a sibling if there is one, and else searches, as far as its limit allows.  With a script in
the place of a scanner, everything about that search can be told.

* `SearchedAs`: what a search of a script leads to;
* `LookedUp`: what a lookup leads to;
* `lookedUp_sourceForHeader`: nothing else comes of a lookup.
-/

namespace Counterpart

open Include Script.Scan

/-! ## Notes -/

lemma Journal.warnings_filter (notes : Journal) (p : Note → Bool) :
    Journal.warnings (notes.filter p) = (Journal.warnings notes).filter p := List.filter_comm _ _ notes

/-- A probe does not warn. -/
lemma Probe.warnings_of_run {probe : Probe} {fs : FileSystem} {cwd dir : Path} {found : Option Path}
    {notes : Journal} (h : probe.run fs cwd dir = .ok (found, notes)) : notes.warnings = [] := by
  unfold run FileSystem.listing at h
  cases hfiles : fs.files cwd dir with
  | ok files =>
    rw [hfiles] at h
    obtain ⟨-, rfl⟩ := Prod.mk.inj (Except.ok.inj h)
    rfl
  | error e =>
    rw [hfiles] at h
    cases e with
    | nul => exact nomatch h
    | refused fault path =>
      obtain ⟨-, rfl⟩ := Prod.mk.inj (Except.ok.inj h)
      rfl

namespace Lookup

/-! ## Searches -/

/-- What a search of a script leads to: its result, the warnings written on the way, and the events taken. -/
inductive SearchedAs (accepts : LineMatch → Bool) (script : Script) :
    Except LookupError (Option Path) → Nat → Nat → Prop
  | found {before behind : List LineMatch} {m : LineMatch} (h : IsFirst accepts script.events before m behind) :
      SearchedAs accepts script (.ok (some m.path)) 0 (before.length + 1)
  | exhausted (hnone : ∀ e ∈ script.events, accepts e = false) (h : script.ending = .done) :
      SearchedAs accepts script (.ok none) 0 script.events.length
  /-- A search that fails is only warned of. -/
  | failed {message : Text} (hnone : ∀ e ∈ script.events, accepts e = false) (h : script.ending = .error message) :
      SearchedAs accepts script (.ok none) 1 script.events.length
  | brokenDown (hnone : ∀ e ∈ script.events, accepts e = false) (h : script.ending = .crash) :
      SearchedAs accepts script (.error (.scan .breakdown)) 0 script.events.length
  /-- The script waits for ever, until the time runs out. -/
  | timedOut (hnone : ∀ e ∈ script.events, accepts e = false) (h : script.ending = .hang) :
      SearchedAs accepts script (.ok none) 0 script.events.length

/-- If an event is accepted, nothing else matters. -/
lemma SearchedAs.of_isFirst {accepts : LineMatch → Bool} {script : Script}
    {result : Except LookupError (Option Path)} {warnings taken : Nat} {before behind : List LineMatch} {m : LineMatch}
    (h : SearchedAs accepts script result warnings taken) (hfirst : IsFirst accepts script.events before m behind) :
    result = .ok (some m.path) ∧ warnings = 0 ∧ taken = before.length + 1 := by
  have hnever {goal : Prop} (hnone : ∀ e ∈ script.events, accepts e = false) : goal :=
    absurd hfirst.accepted (by simp [hnone m hfirst.mem])
  cases h with
  | found h =>
    obtain ⟨rfl, rfl⟩ := h.unique hfirst
    exact ⟨rfl, rfl, rfl⟩
  | exhausted hnone => exact hnever hnone
  | failed hnone => exact hnever hnone
  | brokenDown hnone => exact hnever hnone
  | timedOut hnone => exact hnever hnone

/-- A search of a script is reported as it should be, and its scan has been closed. -/
structure IsSearched (accepts : LineMatch → Bool) (script : Script) (report : Report) (scan : Script.Scan) : Prop where
  scan_eq : report.scan = some (.scripted scan)
  outcome : SearchedAs accepts script report.result (Journal.warnings report.notes).length scan.emitted
  called : scan.called = true
  closed : scan.closed = true

variable {query : Query} {table : ExtensionTable} {root : Path} {pattern : Text} {script : Script}

lemma SearchedAs.isSearched {accepts : LineMatch → Bool} {result : Except LookupError (Option Path)} {notes : Journal}
    {scan : Script.Scan} {warnings taken : Nat} (h : SearchedAs accepts script result warnings taken)
    (hnotes : (Journal.warnings notes).length = warnings) (htaken : scan.emitted = 0 + taken)
    (hcalled : scan.called = true) (hclosed : scan.closed = true) :
    ∃ scan', IsSearched accepts script ⟨result, some (.scripted scan), notes⟩ scan' := by
  rw [Nat.zero_add] at htaken
  subst hnotes htaken
  exact ⟨scan, rfl, h, hcalled, hclosed⟩

/-- A script does not wait unless it waits for ever. -/
lemma runsOut_scripted (limit : TimeLimit) {turn : Turn Search (Option Path)} {scan : Script.Scan}
    (h : turn.state.scan = .scripted scan) : runsOut limit turn = decide (turn.reply = .blocked) := by
  unfold runsOut
  rw [h, show hasWaited (.scripted scan) = false from rfl, Bool.and_false, Bool.or_false]

/-- A search of a script with a time limit leads to what the script leads to, whatever the limit. -/
lemma isSearched_firstWithin (query : Query) (table : ExtensionTable) (root : Path) (pattern : Text) (script : Script)
    (limit : TimeLimit) {notes : Journal} (hnotes : notes.warnings = []) :
    ∃ scan, IsSearched (Search.takes query table) script
      (firstWithin limit ⟨query, table, .scripted (fresh root pattern script), .searching⟩ notes) scan := by
  have hbegins : (fresh root pattern script).phase ≠ .ended := fun h => nomatch h
  obtain ⟨state, hstate, hpulls, hquiet⟩ := Search.pulls_pull query table hbegins []
  unfold firstWithin
  rw [turnWithin_eq_next rfl]
  unfold Search.next
  dsimp only
  generalize Search.pull query table (.scripted (fresh root pattern script)) [] = turn at hstate hpulls hquiet ⊢
  obtain ⟨reply, turnState, more⟩ := turn
  obtain rfl : turnState = .scripted state := hstate
  have hmore : Journal.warnings more = [] := hquiet
  have hall : (notes ++ more).warnings = [] := by rw [Journal.warnings_append, hnotes, hmore, List.append_nil]
  cases hpulls with
  | found h =>
    dsimp only
    rw [runsOut_scripted limit rfl]
    exact SearchedAs.isSearched (.found h) (congrArg List.length hall) rfl rfl rfl
  | finished hnone h =>
    dsimp only
    rw [runsOut_scripted limit rfl]
    exact SearchedAs.isSearched (.exhausted hnone h) (congrArg List.length hall) rfl rfl rfl
  | failed hnone h =>
    dsimp only
    rw [runsOut_scripted limit rfl]
    cases hending : script.ending with
    | done => exact nomatch (congrArg Ending.error? hending).symm.trans h
    | hang => exact nomatch (congrArg Ending.error? hending).symm.trans h
    | error message =>
      obtain rfl := Option.some.inj ((congrArg Ending.error? hending).symm.trans h)
      have hwarned (e : ScanError) : (notes ++ (more ++ [failureNote query.header e])).warnings.length = 1 := by
        rw [← List.append_assoc, Journal.warnings_append, hall]
        rfl
      exact SearchedAs.isSearched (.failed hnone hending) (hwarned _) rfl rfl rfl
    | crash =>
      obtain rfl := Option.some.inj ((congrArg Ending.error? hending).symm.trans h)
      exact SearchedAs.isSearched (.brokenDown hnone hending) (congrArg List.length hall) rfl rfl rfl
  | blocked hnone h =>
    have hsilent : (notes ++ (more.filter isOnTheWay ++ [timeoutNote query.header limit])).warnings = [] := by
      rw [Journal.warnings_append, Journal.warnings_append, Journal.warnings_filter, hnotes, hmore]
      rfl
    dsimp only
    rw [runsOut_scripted limit rfl]
    exact SearchedAs.isSearched (.timedOut hnone h) (congrArg List.length hsilent) rfl rfl rfl

lemma IsSearched.after {accepts : LineMatch → Bool} {report : Report} {scan : Script.Scan}
    (h : IsSearched accepts script report scan) {notes : Journal} (hnotes : notes.warnings = []) :
    IsSearched accepts script (report.after notes) scan := by
  have hwarnings : (notes ++ report.notes).warnings = Journal.warnings report.notes := by
    rw [Journal.warnings_append, hnotes]
    rfl
  refine ⟨h.scan_eq, ?_, h.called, h.closed⟩
  show SearchedAs accepts script report.result (Journal.warnings (notes ++ report.notes)).length scan.emitted
  rw [hwarnings]
  exact h.outcome

/-! ## Lookups -/

/-- A file is the source that belongs to a header, by its role and its base name. -/
def IsSibling (table : ExtensionTable) (header file : Path) : Prop :=
  table.role file.text = .source ∧ table.basename file.text = table.basename header.text

lemma accepts_sourceProbe_iff {header file : Path} :
    (sourceProbe table header).accepts file = true ↔ IsSibling table header file := by
  exact Probe.accepts_iff

/-- What the lookup of a source leads to, with a script in the place of a scanner. -/
inductive LookedUp (around : Surroundings) (table : ExtensionTable) (script : Script) (limit : TimeLimit)
    (header project : Path) (report : Report) : Prop
  /-- The first sibling is taken, whatever the limit, and the script is not started. -/
  | beside {before behind : List Path} {file : Path}
      (hfiles : around.fs.filesIn around.cwd header.parent = before ++ file :: behind)
      (hbefore : ∀ other ∈ before, ¬ IsSibling table header other) (hfile : IsSibling table header file)
      (hresult : report.result = .ok (some file)) (hscan : report.scan = none)
      (hnotes : report.notes.warnings = [])
  /-- There is no time for a search. -/
  | late (hnone : ∀ file ∈ around.fs.filesIn around.cwd header.parent, ¬ IsSibling table header file)
      (hover : limit.isOver = true) (hresult : report.result = .ok none) (hscan : report.scan = none)
      (hnotes : report.notes.warnings = [])
  /-- The time cannot be kept. -/
  | unkept (hnone : ∀ file ∈ around.fs.filesIn around.cwd header.parent, ¬ IsSibling table header file)
      (hover : limit.isOver = false) {fault : TimeLimit.Fault} (hfault : limit.fault? = some fault)
      (hresult : report.result = .error (.limit fault)) (hscan : report.scan = none)
  | searched (hnone : ∀ file ∈ around.fs.filesIn around.cwd header.parent, ¬ IsSibling table header file)
      (hover : limit.isOver = false) (hkept : limit.fault? = none) {scan : Script.Scan}
      (hsearched : IsSearched (Search.takes (Query.forHeader header project around.cwd) table) script report scan)

variable {around : Surroundings} {header project : Path}

/-- The search of a lookup leads to what the script leads to, if its limit leaves time for it. -/
lemma lookedUp_searchSource (table : ExtensionTable) (script : Script) (limit : TimeLimit) (project : Path)
    (hnone : ∀ file ∈ around.fs.filesIn around.cwd header.parent, ¬ IsSibling table header file)
    {notes : Journal} (hnotes : notes.warnings = []) :
    LookedUp around table script limit header project
      ((searchSource around table (some (.scripted script)) limit header project).after notes) := by
  unfold searchSource
  cases hover : limit.isOver with
  | true =>
    refine .late hnone hover rfl rfl ?_
    show Journal.warnings (notes ++ [timeoutNote header limit]) = []
    rw [Journal.warnings_append, hnotes]
    rfl
  | false =>
    rw [if_neg Bool.false_ne_true]
    cases hfault : limit.fault? with
    | some fault => exact .unkept hnone hover hfault rfl rfl
    | none =>
      let query := Query.forHeader header project around.cwd
      have hquiet : Journal.warnings [Search.startNote query] = [] := rfl
      obtain ⟨scan, hscan⟩ := isSearched_firstWithin query table query.directory query.pattern.source script limit
        hquiet
      exact .searched hnone hover hfault (hscan.after hnotes)

/-- Nothing else comes of the lookup of a source. -/
theorem lookedUp_sourceForHeader {headerArg projectArg : Argument} {header project : Path}
    (hcwd : around.cwd.IsNulFree) (hheader : headerArg.require "header" around.cwd = .ok header)
    (hproject : projectArg.require "project_root" around.cwd = .ok project) (table : ExtensionTable)
    (script : Script) (limit : Option TimeLimit) :
    LookedUp around table script (limit.getD .default) header project
      (sourceForHeader around table (some (.scripted script)) limit headerArg projectArg) := by
  have hnul : header.IsNulFree := Argument.isNulFree_of_require hcwd hheader
  obtain ⟨notes, hrun⟩ := (sourceProbe table header).run_eq around.fs hcwd hnul.parent
  have hquiet := Probe.warnings_of_run hrun
  rw [sourceForHeader_eq hheader hproject, source_of_run hrun]
  cases hfind : (around.fs.filesIn around.cwd header.parent).find? (sourceProbe table header).accepts with
  | none =>
    refine lookedUp_searchSource table script (limit.getD .default) project (fun file hfile => ?_) hquiet
    rw [← accepts_sourceProbe_iff]
    exact List.find?_eq_none.mp hfind file hfile
  | some file =>
    obtain ⟨hfile, before, behind, hfiles, hbefore⟩ := List.find?_eq_some_iff_append.mp hfind
    refine .beside hfiles (fun other hother => ?_) (accepts_sourceProbe_iff.1 hfile) rfl rfl hquiet
    rw [← accepts_sourceProbe_iff]
    simpa using hbefore other hother

-- where no limit is given, there is time for a search
example : TimeLimit.default.isOver = false ∧ TimeLimit.default.fault? = none := by decide

/-- A header without a sibling. -/
def headerAlone : Surroundings where
  fs := FileSystem.empty.put (Path.ofText "/p/a.h".toList).components { entry := .file [] }
  cwd := Path.root

/-- A source that includes it. -/
def oneSource : Script where
  events := [⟨Path.ofText "/p/b.c".toList, "#include \"a.h\"".toList⟩]
  ending := .done

/-- The source is found in the usual time, but not if the time given is a number too large to be timed. -/
theorem lookedUp_oneSource :
    headerAlone.cwd.IsNulFree ∧
    (Argument.text "/p/a.h".toList).require "header" headerAlone.cwd = .ok (Path.ofText "/p/a.h".toList) ∧
    (Argument.text "/p".toList).require "project_root" headerAlone.cwd = .ok (Path.ofText "/p".toList) ∧
    (sourceForHeader headerAlone .default (some (.scripted oneSource)) none (.text "/p/a.h".toList)
      (.text "/p".toList)).result = .ok (some (Path.ofText "/p/b.c".toList)) ∧
    (sourceForHeader headerAlone .default (some (.scripted oneSource)) (some (.whole (10 ^ 200 * 10 ^ 200)))
      (.text "/p/a.h".toList) (.text "/p".toList)).result = .error (.limit .tooLarge) := by
  have hcwd : headerAlone.cwd.IsNulFree := by
    unfold Path.IsNulFree
    decide
  have hheader : (Argument.text "/p/a.h".toList).require "header" headerAlone.cwd
      = .ok (Path.ofText "/p/a.h".toList) := rfl
  have hproject : (Argument.text "/p".toList).require "project_root" headerAlone.cwd
      = .ok (Path.ofText "/p".toList) := rfl
  have hbeside : ∀ file ∈ headerAlone.fs.filesIn headerAlone.cwd (Path.ofText "/p/a.h".toList).parent,
      ¬ IsSibling .default (Path.ofText "/p/a.h".toList) file := by
    unfold IsSibling
    decide +kernel
  have hnever {before behind : List Path} {file : Path} {goal : Prop}
      (hfiles : headerAlone.fs.filesIn headerAlone.cwd (Path.ofText "/p/a.h".toList).parent = before ++ file :: behind)
      (hfile : IsSibling .default (Path.ofText "/p/a.h".toList) file) : goal :=
    absurd hfile (hbeside file (hfiles ▸ List.mem_append_right before List.mem_cons_self))
  have htakes : Search.takes (Query.forHeader (Path.ofText "/p/a.h".toList) (Path.ofText "/p".toList) headerAlone.cwd)
      .default ⟨Path.ofText "/p/b.c".toList, "#include \"a.h\"".toList⟩ = true := by decide +kernel
  have htooLarge : (TimeLimit.whole (10 ^ 200 * 10 ^ 200)).fault? = some .tooLarge := by decide +kernel
  refine ⟨hcwd, hheader, hproject, ?_, ?_⟩
  · cases lookedUp_sourceForHeader hcwd hheader hproject .default oneSource none with
    | beside hfiles _ hfile => exact hnever hfiles hfile
    | late _ hover => exact absurd hover (by decide)
    | unkept _ _ hfault => exact nomatch (hfault : none = some _)
    | searched _ _ _ hsearched =>
      exact (hsearched.outcome.of_isFirst (IsFirst.nil htakes [])).1
  · cases lookedUp_sourceForHeader hcwd hheader hproject .default oneSource (some (.whole (10 ^ 200 * 10 ^ 200))) with
    | beside hfiles _ hfile => exact hnever hfiles hfile
    | late _ hover => exact absurd hover (by decide)
    | unkept _ _ hfault hresult =>
      obtain rfl := Option.some.inj (htooLarge.symm.trans hfault)
      exact hresult
    | searched _ _ hkept => exact nomatch htooLarge.symm.trans hkept

end Lookup

end Counterpart
