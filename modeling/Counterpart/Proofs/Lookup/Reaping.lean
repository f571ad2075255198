import Counterpart.Proofs.Lookup.Results
import Counterpart.Proofs.Search.Steps

/-!
# No searcher is left behind

However a scan with the searcher is used, by itself, by a search, or by a lookup with a time limit: the searcher is
started at most once, and not before it is needed; and when the scan has ended, so has the searcher, after an attempt
to kill it unless it had been learnt that it had ended by itself.

* `IsTended` and `IsIdle`: what is kept of a scan, by requests and by closings;
* `searcher_caredFor`: any use of a scan, of a search and of a lookup.
-/

namespace Counterpart

open Ripgrep

/-- What is to be said of a scan with the searcher after some requests have been answered. -/
structure Ripgrep.IsCaredFor {α : Type} (launch : Launch) (requests : List Request) (answers : List (Answer α))
    (scan : Ripgrep.Scan) : Prop where
  /-- The searcher is not started as long as nothing but closing is requested. -/
  lazy : (∀ r ∈ requests, r = .close) → scan.acts = []
  once : scan.acts.count .start ≤ 1
  /-- The scan has ended when a last answer was given. -/
  ended : (∃ a ∈ answers, a.isLast = true) → scan.phase = .ended
  /-- When it has ended, in whatever way, the searcher has ended too. -/
  reaped : scan.phase = .ended → Reaped launch scan.acts

/-! ## Scans of any kind -/

namespace Scan

/-- A scan is one with the searcher, and has done to it so far what is due. -/
def IsTended (launch : Launch) (scan : Scan) : Prop :=
  ∃ s, scan = .ripgrep s ∧ s.launch = launch ∧ s.IsTended

/-- A scan is one with the searcher, and has not started it. -/
def IsIdle (scan : Scan) : Prop := ∃ s, scan = .ripgrep s ∧ s.acts = []

variable {launch : Launch} {scan : Scan}

lemma IsTended.next (h : scan.IsTended launch) : scan.next.state.IsTended launch := by
  obtain ⟨s, rfl, hlaunch, hs⟩ := h
  exact ⟨s.next.state, rfl, s.launch_next.trans hlaunch, Ripgrep.Scan.IsTended.next hs⟩

lemma IsTended.nextAtOnce (h : scan.IsTended launch) : scan.nextAtOnce.state.IsTended launch := by
  obtain ⟨s, rfl, hlaunch, hs⟩ := h
  exact ⟨s.nextAtOnce.state, rfl, s.launch_nextAtOnce.trans hlaunch, Ripgrep.Scan.IsTended.nextAtOnce hs⟩

lemma IsTended.close (h : scan.IsTended launch) : scan.close.IsTended launch := by
  obtain ⟨s, rfl, hlaunch, hs⟩ := h
  exact ⟨s.close, rfl, s.launch_close.trans hlaunch, Ripgrep.Scan.IsTended.close hs⟩

lemma IsIdle.close (h : scan.IsIdle) : scan.close.IsIdle := by
  obtain ⟨s, rfl, hs⟩ := h
  exact ⟨s.close, rfl, Ripgrep.Scan.acts_close hs⟩

lemma isTended_fresh (root : Path) (pattern : Text) (nesting : Nat) (launch : Launch) :
    (Scan.ripgrep (.fresh root pattern nesting launch)).IsTended launch :=
  ⟨_, rfl, rfl, Ripgrep.Scan.isTended_fresh root pattern nesting launch⟩

lemma isIdle_fresh (root : Path) (pattern : Text) (nesting : Nat) (launch : Launch) :
    (Scan.ripgrep (.fresh root pattern nesting launch)).IsIdle := ⟨_, rfl, rfl⟩

/-- When a scan has ended, the searcher has been seen to. -/
lemma IsTended.reaped (h : scan.IsTended launch) (hover : scan.IsOver) :
    ∃ s, scan = .ripgrep s ∧ s.phase = .ended ∧ Reaped launch s.acts := by
  obtain ⟨s, rfl, rfl, hs⟩ := h
  exact ⟨s, rfl, hover, Ripgrep.Scan.IsTended.reaped hs hover⟩

/-- Cared for is the searcher of a scan that does what is due, is idle as long as only closing is requested, and has
ended when a last answer was given. -/
lemma IsTended.caredFor {α : Type} (h : scan.IsTended launch) {requests : List Request} {answers : List (Answer α)}
    (hidle : (∀ r ∈ requests, r = .close) → scan.IsIdle)
    (hover : (∃ a ∈ answers, a.isLast = true) → scan.IsOver) :
    ∃ s, scan = .ripgrep s ∧ IsCaredFor launch requests answers s := by
  obtain ⟨s, rfl, rfl, hs⟩ := h
  refine ⟨s, rfl, ?_, hs.count_start, hover, fun hended => Ripgrep.Scan.IsTended.reaped hs hended⟩
  intro hrequests
  obtain ⟨t, ht, hacts⟩ := hidle hrequests
  rwa [Scan.ripgrep.inj ht]

theorem keeps_isTended (launch : Launch) : Feed.Keeps fun (scan : Scan) (_ : List LineMatch) => scan.IsTended launch :=
  ⟨IsTended.next, IsTended.close⟩

/-- However a scan with the searcher is used, the searcher is cared for. -/
theorem caredFor_after (root : Path) (pattern : Text) (nesting : Nat) (launch : Launch) (requests : List Request) :
    ∃ s, Feed.after (Scan.ripgrep (.fresh root pattern nesting launch)) requests = .ripgrep s ∧
      IsCaredFor launch requests (Feed.answers (Scan.ripgrep (.fresh root pattern nesting launch)) requests) s := by
  have htended := (keeps_isTended launch).after_state (isTended_fresh root pattern nesting launch) requests
  apply htended.caredFor
  · exact Feed.after_of_closes (P := IsIdle) IsIdle.close (isIdle_fresh root pattern nesting launch)
  · exact isEnd.after

end Scan

/-! ## Searches -/

namespace Search

variable {launch : Launch} {search : Search}

theorem keeps_isTended (launch : Launch) : Feed.Keeps fun (search : Search) (_ : List (Option Path)) =>
    search.scan.IsTended launch ∧ (search.phase = .ended → search.scan.IsOver) :=
  keeps_scan Scan.IsTended.next Scan.IsTended.close

/-- The scan of a search does what is due, and when the search has ended, so has its scan. -/
lemma isTended_after (htended : search.scan.IsTended launch) (hphase : search.phase = .searching)
    (requests : List Request) :
    (Feed.after search requests).scan.IsTended launch ∧
      ((Feed.after search requests).phase = .ended → (Feed.after search requests).scan.IsOver) := by
  have hbegins : search.phase = .ended → search.scan.IsOver := fun hended => nomatch hphase.symm.trans hended
  exact (keeps_isTended launch).after_state ⟨htended, hbegins⟩ requests

/-- However a search is used that uses the searcher, the searcher is cared for. -/
theorem caredFor_after (htended : search.scan.IsTended launch) (hidle : search.scan.IsIdle)
    (hphase : search.phase = .searching) (requests : List Request) :
    ∃ s, (Feed.after search requests).scan = .ripgrep s ∧
      IsCaredFor launch requests (Feed.answers search requests) s := by
  obtain ⟨hafter, hover⟩ := isTended_after htended hphase requests
  apply hafter.caredFor
  · exact Feed.after_of_closes (P := fun search : Search => search.scan.IsIdle) Scan.IsIdle.close hidle
  · exact fun hlast => hover (isEnd.after hlast)

/-- A search that uses the searcher begins with a scan that has done nothing to it. -/
lemma isTended_create {around : Surroundings} {scanner : Option Scanner}
    (h : chosenScanner around scanner = .ripgrep) (header project : Path) (table : ExtensionTable)
    (directives : List Text) :
    (create around header project table scanner directives).1.scan.IsTended around.launch ∧
      (create around header project table scanner directives).1.scan.IsIdle ∧
      (create around header project table scanner directives).1.phase = .searching := by
  obtain ⟨notes, hcreate⟩ := create_eq around header project table scanner directives
  rw [hcreate, h]
  exact ⟨Scan.isTended_fresh _ _ _ _, Scan.isIdle_fresh _ _ _ _, rfl⟩

end Search

/-! ## Lookups -/

namespace Lookup

variable {around : Surroundings} {table : ExtensionTable} {scanner : Option Scanner}

/-- Whatever the limit, a search asks its scan for matches and for nothing else. -/
lemma isTended_turnWithin {launch : Launch} {search : Search} (htended : search.scan.IsTended launch)
    (hphase : search.phase = .searching) (limit : TimeLimit) :
    (turnWithin limit search).state.scan.IsTended launch := by
  have hnext := (Search.isTended_after htended hphase [.next]).1
  unfold turnWithin
  split
  · unfold Search.nextAtOnce
    dsimp only
    split
    · exact htended.nextAtOnce
    · exact hnext
  · exact hnext

/-- When a search with a time limit is over, the searcher has been seen to. -/
lemma reaped_firstWithin {launch : Launch} {search : Search} (htended : search.scan.IsTended launch)
    (hphase : search.phase = .searching) (limit : TimeLimit) (notes : Journal) :
    ∃ s, (firstWithin limit search notes).scan = some (.ripgrep s) ∧ s.phase = .ended ∧ Reaped launch s.acts := by
  -- the search is asked for one value and closed, whatever comes of it
  have hclosed := (isTended_turnWithin htended hphase limit).close
  obtain ⟨s, hs, hended, hreaped⟩ := hclosed.reaped (Scan.isOver_close _)
  exact ⟨s, (scan_firstWithin limit search notes).trans (congrArg some hs), hended, hreaped⟩

/-- When a lookup of a source is over for which the searcher was made ready, it has been seen to. -/
lemma reaped_source (hscanner : Search.chosenScanner around scanner = .ripgrep) (limit : Option TimeLimit)
    (header project : Path) {scan : Scan} (h : (source around table scanner limit header project).scan = some scan) :
    ∃ s, scan = .ripgrep s ∧ s.phase = .ended ∧ Reaped around.launch s.acts := by
  unfold source at h
  dsimp only at h
  split at h
  · exact nomatch h
  · exact nomatch h
  · change (searchSource around table scanner (limit.getD .default) header project).scan = some scan at h
    unfold searchSource at h
    split at h
    · exact nomatch h
    · split at h
      · exact nomatch h
      · obtain ⟨htended, -, hphase⟩ :=
          Search.isTended_create hscanner header project table Include.defaultDirectives
        obtain ⟨s, hs, hreaped⟩ := reaped_firstWithin htended hphase (limit.getD .default)
          (Search.create around header project table scanner Include.defaultDirectives).2
        exact ⟨s, Option.some.inj (h.symm.trans hs), hreaped⟩

/-- The searcher is cared for, be it that a scan, a search or a lookup of a source uses it. -/
theorem searcher_caredFor {headerArg projectArg : Argument} {directives : List Text} {search : Search}
    {notes : Journal} (hscanner : Search.chosenScanner around scanner = .ripgrep)
    (hsearch : Search.ofArguments around headerArg projectArg table scanner directives = .ok (search, notes))
    (root : Path) (pattern : Text) (limit : Option TimeLimit) (requests : List Request) :
    (∃ s, Feed.after (Scan.ripgrep (.fresh root pattern around.nesting around.launch)) requests = .ripgrep s ∧
      IsCaredFor around.launch requests
        (Feed.answers (Scan.ripgrep (.fresh root pattern around.nesting around.launch)) requests) s) ∧
    (∃ s, (Feed.after search requests).scan = .ripgrep s ∧
      IsCaredFor around.launch requests (Feed.answers search requests) s) ∧
    (∀ scan, (sourceForHeader around table scanner limit headerArg projectArg).scan = some scan →
      ∃ s, scan = .ripgrep s ∧ s.phase = .ended ∧ Reaped around.launch s.acts) := by
  obtain ⟨header, project, hheader, hproject, hcreate⟩ := Search.ofArguments_eq_ok hsearch
  obtain ⟨htended, hidle, hphase⟩ := Search.isTended_create hscanner header project table directives
  rw [hcreate] at htended hidle hphase
  refine ⟨Scan.caredFor_after root pattern around.nesting around.launch requests, ?_, ?_⟩
  · exact Search.caredFor_after htended hidle hphase requests
  · intro scan hscan
    rw [sourceForHeader_eq hheader hproject] at hscan
    exact reaped_source hscanner limit header project hscan

/-- A searcher that never comes to its end. -/
def endlessSearcher : Surroundings where
  fs := .empty
  cwd := Path.root
  launch := .runs { finished := false, exit := .never }

/-- A scan that is closed while such a searcher runs has killed it, and a search has seen to it too. -/
theorem searcher_caredFor_endlessSearcher :
    Search.chosenScanner endlessSearcher (some .ripgrep) = .ripgrep ∧
    ∃ search notes s t, Search.ofArguments endlessSearcher (.text "/p/a.h".toList) (.text "/p".toList) .default
        (some .ripgrep) Include.defaultDirectives = .ok (search, notes) ∧
      Feed.after (Scan.ripgrep (.fresh Path.root [] endlessSearcher.nesting endlessSearcher.launch)) [.next, .close]
        = .ripgrep s ∧
      s.acts = [.start, .kill false, .wait killedStatus] ∧
      (Feed.after search [.next, .close]).scan = .ripgrep t ∧ Reaped endlessSearcher.launch t.acts := by
  have hscanner : Search.chosenScanner endlessSearcher (some .ripgrep) = .ripgrep := rfl
  have hlast {α : Type} (a : Answer α) : ∃ b ∈ [a, .closed], b.isLast = true :=
    ⟨.closed, List.mem_cons_of_mem a List.mem_cons_self, rfl⟩
  obtain ⟨search, notes, hsearch⟩ : ∃ search notes, Search.ofArguments endlessSearcher (.text "/p/a.h".toList)
      (.text "/p".toList) .default (some .ripgrep) Include.defaultDirectives = .ok (search, notes) := ⟨_, _, rfl⟩
  obtain ⟨⟨s, hs, -⟩, ⟨t, ht, hcared⟩, -⟩ :=
    searcher_caredFor hscanner hsearch Path.root [] none [.next, .close]
  refine ⟨hscanner, search, notes, s, t, hsearch, hs, ?_, ht, hcared.reaped (hcared.ended (hlast _))⟩
  obtain rfl := Scan.ripgrep.inj hs
  rfl

/-- A searcher that writes the event of a match and then some more. -/
def eventWriter (more : Bytes) (exit : Exit) : Output where
  pieces := [matchEvent ++ more]
  exit := exit

/-- The match that the event tells of. -/
lemma tells_matchEvent :
    (Read.line matchEvent).tells 900 Path.root = .ok (some ⟨Path.ofText "/a.c".toList, "x".toList⟩) := by
  have hmatch : (Read.line matchEvent).match? 900 Path.root = some ⟨Path.ofText "/a.c".toList, "x".toList⟩ := by
    decide +kernel
  unfold Read.match? at hmatch
  generalize (Read.line matchEvent).tells 900 Path.root = tells at hmatch ⊢
  cases tells with
  | error e => exact nomatch hmatch
  | ok found => exact congrArg Except.ok hmatch

/-- Whether a searcher is killed does not depend on how much of its output has been read: it is when all of it has been
read, but not that there is no more; and it is not when its end has been noticed, though there is more to be read. -/
theorem kill_isNotByUnreadOutput :
    (∃ s, Feed.after (Scan.ripgrep (.fresh Path.root [] 900 (.runs (eventWriter [] .awaited)))) [.next] = .ripgrep s ∧
      s.phase = .reading (eventWriter [] .awaited) [] true ∧
      s.close.phase = .ended ∧ s.close.acts = [.start, .kill false, .wait killedStatus]) ∧
    (∃ s, Feed.after (Scan.ripgrep (.fresh Path.root [] 900 (.runs (eventWriter matchEvent .noticed)))) [.next]
        = .ripgrep s ∧
      s.phase = .reading (eventWriter matchEvent .noticed) [.line matchEvent] true ∧
      s.close.phase = .ended ∧ s.close.acts = [.start, .notice 0]) := by
  have hone : (eventWriter [] .awaited).reads = [.line matchEvent] := by decide +kernel
  have htwo : (eventWriter matchEvent .noticed).reads = [.line matchEvent, .line matchEvent] := by decide +kernel
  refine ⟨⟨_, Ripgrep.Scan.after_next_of_match hone tells_matchEvent [], ?_⟩,
    ⟨_, Ripgrep.Scan.after_next_of_match htwo tells_matchEvent [], ?_⟩⟩
  · exact ⟨rfl, rfl, rfl⟩
  · exact ⟨rfl, rfl, rfl⟩

end Lookup

end Counterpart
