import Counterpart.Proofs.Lookup.Results
import Counterpart.Proofs.Search.Scripted

/-!
# A search hands out one value

However a search of a script is used, it hands out one value at most, takes no event behind the first one that it
accepts, and leaves no scan open when it has ended.

* `Stage`: all states that a search of a script can be in, and what it has handed out by then;
* `keeps_stage`: there are no others;
* `search_takesOne`: what follows for any use of a search.
-/

namespace Counterpart

/-- What a search may hand out of a script: the file of the first event that is accepted, or that there is none if the
script comes to its end well. -/
inductive Script.Offers (accepts : LineMatch → Bool) (script : Script) : Option Path → Prop
  | found {before behind : List LineMatch} {m : LineMatch} (h : IsFirst accepts script.events before m behind) :
      Offers accepts script (some m.path)
  | none (hnone : ∀ e ∈ script.events, accepts e = false) (h : script.ending = .done) : Offers accepts script none

namespace Search

open Script.Scan

variable {accepts : LineMatch → Bool} {root : Path} {pattern : Text} {script : Script} {query : Include.Query}
  {table : ExtensionTable}

/-! ## Stages -/

/-- How far a search of a script can be, what has become of its scan by then, and what has been handed out. -/
inductive Stage (accepts : LineMatch → Bool) (root : Path) (pattern : Text) (script : Script) :
    Phase → Script.Scan → List (Option Path) → Prop
  | unbegun : Stage accepts root pattern script .searching (fresh root pattern script) []
  /-- It waits for a script that never ends. -/
  | stuck (hnone : ∀ e ∈ script.events, accepts e = false) (h : script.ending = .hang) :
      Stage accepts root pattern script .searching (fresh root pattern script).takeAll []
  | offered {before behind : List LineMatch} {m : LineMatch} (h : IsFirst accepts script.events before m behind) :
      Stage accepts root pattern script .offered ((fresh root pattern script).takeMany (before.length + 1) behind)
        [some m.path]
  | spent (hnone : ∀ e ∈ script.events, accepts e = false) (h : script.ending = .done) :
      Stage accepts root pattern script .spent (fresh root pattern script).takeAll.finish [none]
  /-- It was closed before it began. -/
  | dropped : Stage accepts root pattern script .ended (fresh root pattern script).close []
  /-- It has ended after the first event that is accepted. -/
  | sated {before behind : List LineMatch} {m : LineMatch} (h : IsFirst accepts script.events before m behind) :
      Stage accepts root pattern script .ended
        ((fresh root pattern script).takeMany (before.length + 1) behind).finish [some m.path]
  /-- It has ended after all events, none of which is accepted. -/
  | exhausted {handed : List (Option Path)} (hnone : ∀ e ∈ script.events, accepts e = false)
      (h : handed = [] ∨ (handed = [none] ∧ script.ending = .done)) :
      Stage accepts root pattern script .ended (fresh root pattern script).takeAll.finish handed

variable {phase : Phase} {scan : Script.Scan} {handed : List (Option Path)}

lemma Stage.once (h : Stage accepts root pattern script phase scan handed) :
    handed = [] ∨ ∃ value, handed = [value] ∧ script.Offers accepts value := by
  cases h with
  | unbegun => exact .inl rfl
  | stuck => exact .inl rfl
  | offered h => exact .inr ⟨_, rfl, .found h⟩
  | spent hnone h => exact .inr ⟨_, rfl, .none hnone h⟩
  | dropped => exact .inl rfl
  | sated h => exact .inr ⟨_, rfl, .found h⟩
  | exhausted hnone h =>
    rcases h with rfl | ⟨rfl, hdone⟩
    · exact .inl rfl
    · exact .inr ⟨_, rfl, .none hnone hdone⟩

/-- An event that is accepted is the last one taken, if it is taken at all. -/
lemma Stage.thrifty (h : Stage accepts root pattern script phase scan handed) {i : Nat} {m : LineMatch}
    (hi : script.events[i]? = some m) (hm : accepts m = true) : scan.emitted ≤ i + 1 := by
  have hbegin : 0 ≤ i + 1 := Nat.zero_le _
  have hfirst {before behind : List LineMatch} {m : LineMatch} (h : IsFirst accepts script.events before m behind) :
      0 + (before.length + 1) ≤ i + 1 := by
    have hlength := h.length_le hi hm
    omega
  have hnever {goal : Prop} (hnone : ∀ e ∈ script.events, accepts e = false) : goal :=
    absurd (hnone m (List.mem_of_getElem? hi)) (by simp [hm])
  cases h with
  | unbegun => exact hbegin
  | stuck hnone => exact hnever hnone
  | offered h => exact hfirst h
  | spent hnone => exact hnever hnone
  | dropped => exact hbegin
  | sated h => exact hfirst h
  | exhausted hnone => exact hnever hnone

lemma Stage.closed (h : Stage accepts root pattern script .ended scan handed) (hcalled : scan.called = true) :
    scan.closed = true := by
  cases h with
  | dropped => exact nomatch hcalled
  | sated => rfl
  | exhausted => rfl

/-- To close a search is to close its scan. -/
lemma Stage.close (h : Stage accepts root pattern script phase scan handed) :
    Stage accepts root pattern script .ended scan.close handed := by
  cases h with
  | unbegun => exact .dropped
  | stuck hnone => exact .exhausted hnone (.inl rfl)
  | offered h => exact .sated h
  | spent hnone h => exact .exhausted hnone (.inr ⟨rfl, h⟩)
  | dropped => exact .dropped
  | sated h => exact .sated h
  | exhausted hnone h => exact .exhausted hnone h

/-- A search that goes on pulls as if it began; if it has waited already, it goes on to wait. -/
lemma Stage.pulls (h : Stage accepts root pattern script .searching scan handed) {reply : Reply Path}
    {state : Script.Scan} (hpulls : Pulls accepts scan reply state) :
    handed = [] ∧ Pulls accepts (fresh root pattern script) reply state := by
  cases h with
  | unbegun => exact ⟨rfl, hpulls⟩
  | stuck hnone hhang =>
    cases hpulls with
    | found h => exact absurd h.events_eq (by simp [takeAll, takeMany])
    | finished _ h => exact nomatch hhang.symm.trans h
    | failed _ h =>
      have hnever : script.ending.error? = some _ := h
      rw [hhang] at hnever
      exact nomatch hnever
    | blocked => exact ⟨rfl, .blocked hnone hhang⟩

/-! ## Searches -/

/-- A search of a script is at some stage, and has handed out some values. -/
def IsAtStage (query : Include.Query) (table : ExtensionTable) (root : Path) (pattern : Text) (script : Script)
    (search : Search) (handed : List (Option Path)) : Prop :=
  ∃ phase scan, search = ⟨query, table, .scripted scan, phase⟩ ∧
    Stage (takes query table) root pattern script phase scan handed

lemma IsAtStage.close {search : Search} (h : IsAtStage query table root pattern script search handed) :
    IsAtStage query table root pattern script search.close handed := by
  obtain ⟨phase, scan, rfl, hstage⟩ := h
  exact ⟨.ended, scan.close, rfl, hstage.close⟩

/-- While a search goes on, it pulls what a search that begins would pull. -/
lemma IsAtStage.pulled {search : Search} (h : IsAtStage query table root pattern script search handed)
    (hphase : search.phase = .searching) :
    handed = [] ∧ ∃ state, search.pulled.state = .scripted state ∧
      Pulls (takes query table) (fresh root pattern script) search.pulled.reply state := by
  obtain ⟨phase, scan, rfl, hstage⟩ := h
  obtain rfl : phase = .searching := hphase
  have hgoes : scan.phase ≠ .ended := by
    cases hstage with
    | unbegun => exact fun h => nomatch h
    | stuck => exact fun h => nomatch h
  obtain ⟨state, hstate, hpulls, -⟩ := pulls_pull query table hgoes []
  obtain ⟨hnothing, hfresh⟩ := hstage.pulls hpulls
  exact ⟨hnothing, state, hstate, hfresh⟩

/-- A request leads from stage to stage. -/
lemma IsAtStage.next {search : Search} (h : IsAtStage query table root pattern script search handed) :
    IsAtStage query table root pattern script search.next.state (handed ++ search.next.reply.values) := by
  have hpulled := h.pulled
  have hclose := h.close
  have hsame := h
  obtain ⟨phase, scan, hsearch, -⟩ := h
  have hquery : search.query = query := congrArg Search.query hsearch
  have htable : search.table = table := congrArg Search.table hsearch
  have hstep := step_next search
  generalize search.next.state = next, search.next.reply = reply at hstep
  cases hstep with
  | offers hphase hreply =>
    obtain ⟨rfl, state, hstate, hpulls⟩ := hpulled hphase
    rw [hreply] at hpulls
    cases hpulls with
    | found hfirst => exact ⟨.offered, _, by rw [hstate, hquery, htable], .offered hfirst⟩
  | spends hphase hreply =>
    obtain ⟨rfl, state, hstate, hpulls⟩ := hpulled hphase
    rw [hreply] at hpulls
    cases hpulls with
    | finished hnone hdone => exact ⟨.spent, _, by rw [hstate, hquery, htable], .spent hnone hdone⟩
  | fails hphase hreply =>
    obtain ⟨rfl, state, hstate, hpulls⟩ := hpulled hphase
    rw [hreply] at hpulls
    cases hpulls with
    | failed hnone herror =>
      refine ⟨.ended, _, ?_, .exhausted hnone (.inl rfl)⟩
      rw [hstate, hquery, htable]
      rfl
  | waits hphase hreply =>
    obtain ⟨rfl, state, hstate, hpulls⟩ := hpulled hphase
    rw [hreply] at hpulls
    cases hpulls with
    | blocked hnone hhang => exact ⟨.searching, _, by rw [hstate, hquery, htable, hphase], .stuck hnone hhang⟩
  | closes =>
    show IsAtStage query table root pattern script search.close (handed ++ [])
    rwa [List.append_nil]
  | rests =>
    show IsAtStage query table root pattern script search (handed ++ [])
    rwa [List.append_nil]

theorem keeps_stage (query : Include.Query) (table : ExtensionTable) (root : Path) (pattern : Text) (script : Script) :
    Feed.Keeps (IsAtStage query table root pattern script) := ⟨IsAtStage.next, IsAtStage.close⟩

/-- A search that was closed before it began never begins. -/
lemma after_close (query : Include.Query) (table : ExtensionTable) (root : Path) (pattern : Text) (script : Script)
    (requests : List Request) :
    Feed.after (⟨query, table, .scripted (fresh root pattern script), .searching⟩ : Search) (.close :: requests)
      = ⟨query, table, .scripted (fresh root pattern script).close, .ended⟩ := by
  have hkeeps : Feed.Keeps fun (search : Search) (_ : List (Option Path)) =>
      search = ⟨query, table, .scripted (fresh root pattern script).close, .ended⟩ := by
    refine ⟨?_, ?_⟩
    · rintro search - rfl
      rfl
    · rintro search - rfl
      rfl
  exact hkeeps.after_state rfl requests

/-! ## Any use of a search -/

/-- What is to be said of a search of a script and its scan after some requests. -/
structure TakesOne (accepts : LineMatch → Bool) (script : Script) (search : Search) (requests : List Request)
    (scan : Script.Scan) : Prop where
  scan_eq : (Feed.after search requests).scan = .scripted scan
  /-- A search that is only created, or closed before it is asked for anything, does not start its scan. -/
  lazy : requests = [] ∨ requests.head? = some .close → scan.called = false
  /-- There is one value at most, and it is the right one. -/
  once : Feed.handedOut search requests = [] ∨
    ∃ value, Feed.handedOut search requests = [value] ∧ script.Offers accepts value
  /-- No event is taken behind the first one that is accepted. -/
  thrifty : ∀ i m, script.events[i]? = some m → accepts m = true → scan.emitted ≤ i + 1
  /-- A search that has given a last answer says that it has ended. -/
  ended : (∃ a ∈ Feed.answers search requests, a.isLast = true) →
    (Feed.serve (Feed.after search requests) .next).1 = .ended
  /-- When it has ended, its scan is closed. -/
  closed : (∃ a ∈ Feed.answers search requests, a.isLast = true) → scan.called = true → scan.closed = true

/-- A search of a script takes one value, however it is used. -/
lemma takesOne (query : Include.Query) (table : ExtensionTable) (root : Path) (pattern : Text) (script : Script)
    (requests : List Request) :
    ∃ scan, TakesOne (takes query table) script ⟨query, table, .scripted (fresh root pattern script), .searching⟩
      requests scan := by
  obtain ⟨phase, scan, hsearch, hstage⟩ := (keeps_stage query table root pattern script).after
    ⟨_, _, rfl, .unbegun⟩ requests
  refine ⟨scan, congrArg Search.scan hsearch, ?_, hstage.once, fun _ _ => hstage.thrifty, isEnd.next_after, ?_⟩
  · intro hrequests
    cases requests with
    | nil =>
      obtain rfl := Scan.scripted.inj (congrArg Search.scan hsearch)
      rfl
    | cons request rest =>
      obtain rfl : request = .close := by simpa using hrequests
      rw [after_close] at hsearch
      obtain rfl := Scan.scripted.inj (congrArg Search.scan hsearch)
      rfl
  · intro hlast
    obtain rfl : phase = .ended := (congrArg Search.phase hsearch).symm.trans (isEnd.after hlast)
    exact hstage.closed

/-- The search of a script for sources that include a header takes one value, however it is used. -/
theorem search_takesOne {around : Surroundings} {headerArg projectArg : Argument} {header project : Path}
    (hheader : headerArg.require "header" around.cwd = .ok header)
    (hproject : projectArg.require "project_root" around.cwd = .ok project) (table : ExtensionTable)
    (script : Script) (directives : List Text) :
    ∃ search notes,
      ofArguments around headerArg projectArg table (some (.scripted script)) directives = .ok (search, notes) ∧
      ∀ requests, ∃ scan, TakesOne (takes (Include.Query.forHeader header project around.cwd directives) table) script
        search requests scan := by
  have hcreate := ofArguments_eq hheader hproject table (some (.scripted script)) directives
  exact ⟨_, _, hcreate, takesOne (Include.Query.forHeader header project around.cwd directives) table _ _ script⟩

/-- Two sources that include a header, and then a breakdown. -/
def twoSources : Script where
  events := [⟨Path.ofText "/p/b.c".toList, "#include \"a.h\"".toList⟩,
    ⟨Path.ofText "/p/c.c".toList, "#include \"a.h\"".toList⟩]
  ending := .crash

/-- The second source is never taken. -/
theorem search_takesOne_twoSources :
    (Argument.text "/p/a.h".toList).require "header" Path.root = .ok (Path.ofText "/p/a.h".toList) ∧
    (Argument.text "/p".toList).require "project_root" Path.root = .ok (Path.ofText "/p".toList) ∧
    ∃ search notes, ofArguments { fs := .empty, cwd := Path.root } (.text "/p/a.h".toList) (.text "/p".toList) .default
        (some (.scripted twoSources)) Include.defaultDirectives = .ok (search, notes) ∧
      ∀ requests, ∃ scan, (Feed.after search requests).scan = .scripted scan ∧ scan.emitted ≤ 1 := by
  let around : Surroundings := { fs := .empty, cwd := Path.root }
  have hheader : (Argument.text "/p/a.h".toList).require "header" around.cwd
      = .ok (Path.ofText "/p/a.h".toList) := rfl
  have hproject : (Argument.text "/p".toList).require "project_root" around.cwd
      = .ok (Path.ofText "/p".toList) := rfl
  have hfirst : takes (Include.Query.forHeader (Path.ofText "/p/a.h".toList) (Path.ofText "/p".toList) around.cwd
      Include.defaultDirectives) .default ⟨Path.ofText "/p/b.c".toList, "#include \"a.h\"".toList⟩ = true := by
    decide +kernel
  obtain ⟨search, notes, hsearch, htakes⟩ := search_takesOne hheader hproject .default twoSources
    Include.defaultDirectives
  refine ⟨hheader, hproject, search, notes, hsearch, fun requests => ?_⟩
  obtain ⟨scan, hscan⟩ := htakes requests
  exact ⟨scan, hscan.scan_eq, hscan.thrifty 0 _ rfl hfirst⟩

end Search

end Counterpart
