import Counterpart.Proofs.Scan.Drain
import Counterpart.Proofs.Scan.Requests
import Counterpart.Proofs.Scan.Searcher

/-!
# Searches step by step

* `Scan.isEnd` and `Search.isEnd`: when a scan and a search have ended;
* `Search.step_next`: all that one request can do to a search;
* `Search.keeps_scan`: what a scan keeps, a search that uses it keeps, and when the search has ended, so has its scan.
-/

namespace Counterpart

/-! ## Scans -/

namespace Walk.Scan

lemma rest_pull {root : Path} {notes : Journal} {steps : List Step}
    (h : ∀ m, (pull root notes steps).reply ≠ .value m) : (pull root notes steps).state.rest = [] := by
  induction steps generalizing notes with
  | nil => rfl
  | cons step rest ih =>
    cases step with
    | askPlace => exact ih h
    | askLines => exact ih h
    | found m => exact absurd rfl (h m)
    | note n => exact ih h
    | failed e => rfl

end Walk.Scan

namespace Script.Scan

lemma phase_close (scan : Scan) : scan.close.phase = .ended := by
  unfold close
  cases hphase : scan.phase with
  | waiting => rfl
  | running => rfl
  | ended => exact hphase

lemma next_of_ended {scan : Scan} (h : scan.phase = .ended) : scan.next = ⟨.finished, scan, []⟩ := by
  unfold next
  rw [if_pos h]

/-- A scan that says that it has ended, or that has failed, has ended. -/
lemma phase_next {scan : Scan} (h : scan.next.reply = .finished ∨ ∃ e, scan.next.reply = .failed e) :
    scan.next.state.phase = .ended := by
  by_cases hphase : scan.phase = .ended
  · rwa [next_of_ended hphase]
  · unfold next at h ⊢
    rw [if_neg hphase] at h ⊢
    cases hevents : scan.script.events with
    | cons m rest => simp [hevents] at h
    | nil =>
      rw [hevents] at h
      dsimp only at h ⊢
      unfold atEnd at h ⊢
      cases hending : scan.script.ending with
      | done => rfl
      | error message => rfl
      | crash => rfl
      | hang => simp [hending] at h

end Script.Scan

namespace Scan

/-- A scan has ended. -/
def IsOver : Scan → Prop
  | .ripgrep scan => scan.phase = .ended
  | .walk scan => scan.rest = []
  | .scripted scan => scan.phase = .ended

lemma isOver_close (scan : Scan) : scan.close.IsOver := by
  cases scan with
  | ripgrep scan => exact scan.phase_close
  | walk scan => rfl
  | scripted scan => exact scan.phase_close

lemma isOver_next {scan : Scan} (h : scan.next.reply = .finished ∨ ∃ e, scan.next.reply = .failed e) :
    scan.next.state.IsOver := by
  cases scan with
  | ripgrep scan => exact Ripgrep.Scan.phase_next h
  | walk scan =>
    refine Walk.Scan.rest_pull fun m hm => ?_
    rcases h with h | ⟨e, h⟩
    · exact nomatch hm.symm.trans h
    · exact nomatch hm.symm.trans h
  | scripted scan => exact Script.Scan.phase_next h

lemma next_of_isOver {scan : Scan} (h : scan.IsOver) : scan.next.reply = .finished ∧ scan.next.state.IsOver := by
  cases scan with
  | ripgrep scan =>
    show scan.next.reply = .finished ∧ scan.next.state.phase = .ended
    rw [Ripgrep.Scan.next_of_ended h]
    exact ⟨rfl, h⟩
  | walk scan =>
    have hrest : scan.rest = [] := h
    show scan.next.reply = .finished ∧ scan.next.state.rest = []
    unfold Walk.Scan.next
    rw [hrest]
    exact ⟨rfl, rfl⟩
  | scripted scan =>
    show scan.next.reply = .finished ∧ scan.next.state.phase = .ended
    rw [Script.Scan.next_of_ended h]
    exact ⟨rfl, h⟩

theorem isEnd : Feed.IsEnd IsOver where
  next := next_of_isOver
  close := isOver_close
  finished h := isOver_next (.inl h)
  failed h := isOver_next (.inr ⟨_, h⟩)

end Scan

/-! ## Searches -/

namespace Search

/-- What the scan of a search leads to when the search goes on. -/
def pulled (search : Search) : Turn Scan Path := pull search.query search.table search.scan []

/-- The replies to a request, and what they leave behind. -/
inductive Step (search : Search) : Reply (Option Path) → Search → Prop
  | offers (h : search.phase = .searching) {source : Path} (hpulled : search.pulled.reply = .value source) :
      Step search (.value (some source)) { search with scan := search.pulled.state, phase := .offered }
  | spends (h : search.phase = .searching) (hpulled : search.pulled.reply = .finished) :
      Step search (.value none) { search with scan := search.pulled.state, phase := .spent }
  | fails (h : search.phase = .searching) {e : ScanError} (hpulled : search.pulled.reply = .failed e) :
      Step search (.failed e) { search with scan := search.pulled.state.close, phase := .ended }
  | waits (h : search.phase = .searching) (hpulled : search.pulled.reply = .blocked) :
      Step search .blocked { search with scan := search.pulled.state }
  | closes (h : search.phase = .offered ∨ search.phase = .spent) : Step search .finished search.close
  | rests (h : search.phase = .ended) : Step search .finished search

/-- All that a request can do. -/
theorem step_next (search : Search) : Step search search.next.reply search.next.state := by
  unfold next
  cases hphase : search.phase with
  | searching =>
    dsimp only
    cases hpulled : (pull search.query search.table search.scan []).reply with
    | value source => exact .offers hphase hpulled
    | finished => exact .spends hphase hpulled
    | failed e => exact .fails hphase hpulled
    | blocked =>
      have hwaits := Step.waits hphase hpulled
      rw [hphase] at hwaits
      exact hwaits
  | offered => exact .closes (.inl hphase)
  | spent => exact .closes (.inr hphase)
  | ended => exact .rests hphase

theorem isEnd : Feed.IsEnd fun search : Search => search.phase = .ended where
  next {search} h := by
    have hnext : search.next = ⟨.finished, search, []⟩ := by
      unfold next
      rw [h]
    exact ⟨congrArg Turn.reply hnext, (congrArg (·.state.phase) hnext).trans h⟩
  close _ := rfl
  finished {search} h := by
    have hstep := step_next search
    rw [show search.next.reply = .finished from h] at hstep
    show search.next.state.phase = .ended
    generalize search.next.state = state at hstep ⊢
    cases hstep with
    | closes => rfl
    | rests h => exact h
  failed {search} e h := by
    have hstep := step_next search
    rw [show search.next.reply = .failed e from h] at hstep
    show search.next.state.phase = .ended
    generalize search.next.state = state at hstep ⊢
    cases hstep with
    | fails => rfl

variable {P : Scan → Prop}

/-- What a request keeps of a scan, a search that pulls at it keeps. -/
lemma keeps_pull (hnext : ∀ {scan}, P scan → P scan.next.state) (query : Include.Query) (table : ExtensionTable)
    {scan : Scan} (notes : Journal) (h : P scan) : P (pull query table scan notes).state := by
  -- the induction is on the matches still to come
  by_cases hvalue : ∃ m, (Feed.next scan).reply = .value m
  · obtain ⟨m, hm⟩ := hvalue
    have hless : Feed.left (Feed.next scan).state < Feed.left scan := Feed.left_next hm
    rw [pull_of_value hm]
    split
    · exact hnext h
    · exact keeps_pull hnext query table _ (hnext h)
  · have hnone : ∀ m, (Feed.next scan).reply ≠ .value m := fun m hm => hvalue ⟨m, hm⟩
    rw [pull_of_no_value hnone]
    exact hnext h
termination_by Feed.left scan

/-- What requests and closing keep of a scan, any use of a search keeps, and when the search has ended, its scan has. -/
theorem keeps_scan (hnext : ∀ {scan}, P scan → P scan.next.state) (hclose : ∀ {scan}, P scan → P scan.close) :
    Feed.Keeps fun (search : Search) (_ : List (Option Path)) =>
      P search.scan ∧ (search.phase = .ended → search.scan.IsOver) where
  next {search _} := by
    intro ⟨h, hover⟩
    have hpulled : P search.pulled.state := keeps_pull hnext search.query search.table [] h
    have hstep := step_next search
    show P search.next.state.scan ∧ (search.next.state.phase = .ended → search.next.state.scan.IsOver)
    generalize search.next.state = state, search.next.reply = reply at hstep ⊢
    cases hstep with
    | offers => exact ⟨hpulled, fun hended => nomatch hended⟩
    | spends => exact ⟨hpulled, fun hended => nomatch hended⟩
    | fails => exact ⟨hclose hpulled, fun _ => Scan.isOver_close _⟩
    | waits hphase => exact ⟨hpulled, fun hended => nomatch hphase.symm.trans hended⟩
    | closes => exact ⟨hclose h, fun _ => Scan.isOver_close _⟩
    | rests => exact ⟨h, hover⟩
  close := fun ⟨h, _⟩ => ⟨hclose h, fun _ => Scan.isOver_close _⟩

end Search

end Counterpart
