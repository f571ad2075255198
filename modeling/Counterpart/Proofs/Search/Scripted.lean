import Counterpart.Proofs.Search.Steps

/-!
# Searches of a script

A search of a script takes the events up to the first one that it accepts, and no more; if it accepts none, it takes
all of them and ends as the script does.

* `Pulls` says so;
* `pulls_pull`: it is what one request to a search comes to.
-/

namespace Counterpart

/-- An event is the first one that is accepted, and stands between some others. -/
structure IsFirst (accepts : LineMatch → Bool) (events before : List LineMatch) (m : LineMatch)
    (behind : List LineMatch) : Prop where
  events_eq : events = before ++ m :: behind
  rejected : ∀ e ∈ before, accepts e = false
  accepted : accepts m = true

variable {accepts : LineMatch → Bool}

lemma IsFirst.nil {m : LineMatch} (h : accepts m = true) (behind : List LineMatch) :
    IsFirst accepts (m :: behind) [] m behind := ⟨rfl, fun _ he => absurd he List.not_mem_nil, h⟩

lemma IsFirst.cons {events before behind : List LineMatch} {m e : LineMatch}
    (h : IsFirst accepts events before m behind) (he : accepts e = false) :
    IsFirst accepts (e :: events) (e :: before) m behind := by
  refine ⟨congrArg (e :: ·) h.events_eq, ?_, h.accepted⟩
  intro e' he'
  rcases List.mem_cons.mp he' with rfl | he'
  · exact he
  · exact h.rejected e' he'

/-- No event that is accepted comes before the first. -/
lemma IsFirst.length_le {events before behind : List LineMatch} {m e : LineMatch} {i : Nat}
    (h : IsFirst accepts events before m behind) (hi : events[i]? = some e) (he : accepts e = true) :
    before.length ≤ i := by
  refine Nat.le_of_not_lt fun hless => ?_
  rw [h.events_eq, List.getElem?_append_left hless] at hi
  have hrejected := h.rejected e (List.mem_of_getElem? hi)
  rw [he] at hrejected
  exact nomatch hrejected

lemma IsFirst.mem {events before behind : List LineMatch} {m : LineMatch} (h : IsFirst accepts events before m behind) :
    m ∈ events := by
  rw [h.events_eq]
  exact List.mem_append_right before List.mem_cons_self

lemma IsFirst.getElem? {events before behind : List LineMatch} {m : LineMatch}
    (h : IsFirst accepts events before m behind) : events[before.length]? = some m := by
  rw [h.events_eq, List.getElem?_append_right (Nat.le_refl _), Nat.sub_self]
  rfl

/-- There is only one first event. -/
lemma IsFirst.unique {events before behind before' behind' : List LineMatch} {m m' : LineMatch}
    (h : IsFirst accepts events before m behind) (h' : IsFirst accepts events before' m' behind') :
    before = before' ∧ m = m' := by
  have hlength : before.length = before'.length :=
    Nat.le_antisymm (h.length_le h'.getElem? h'.accepted) (h'.length_le h.getElem? h.accepted)
  obtain ⟨hbefore, hrest⟩ := List.append_inj (h.events_eq.symm.trans h'.events_eq) hlength
  exact ⟨hbefore, (List.cons.inj hrest).1⟩

/-- The error that a script ends with, if it does. -/
def Ending.error? : Ending → Option ScanError
  | .error message => some (.scripted message)
  | .crash => some .breakdown
  | .done | .hang => none

namespace Script.Scan

variable {scan : Scan}

/-- A scan that has not begun. -/
def fresh (root : Path) (pattern : Text) (script : Script) : Scan :=
  { root := root, pattern := pattern, script := script }

/-- The scan with some events taken, and the rest of them still to come. -/
def takeMany (scan : Scan) (n : Nat) (rest : List LineMatch) : Scan :=
  { scan.run with script := { scan.script with events := rest }, emitted := scan.emitted + n }

/-- The scan with all events taken. -/
def takeAll (scan : Scan) : Scan := scan.takeMany scan.script.events.length []

lemma takeMany_take (scan : Scan) (n : Nat) (rest behind : List LineMatch) :
    (scan.take rest).takeMany n behind = scan.takeMany (n + 1) behind := by
  have hemitted : scan.emitted + 1 + n = scan.emitted + (n + 1) := by omega
  unfold takeMany
  rw [← hemitted]
  rfl

lemma takeAll_take {m : LineMatch} {rest : List LineMatch} (h : scan.script.events = m :: rest) :
    (scan.take rest).takeAll = scan.takeAll := by
  unfold takeAll
  rw [h]
  exact takeMany_take scan rest.length rest []

/-- What a search takes of a script, and what comes of it. -/
inductive Pulls (accepts : LineMatch → Bool) (scan : Scan) : Reply Path → Scan → Prop
  | found {before behind : List LineMatch} {m : LineMatch} (h : IsFirst accepts scan.script.events before m behind) :
      Pulls accepts scan (.value m.path) (scan.takeMany (before.length + 1) behind)
  | finished (hnone : ∀ e ∈ scan.script.events, accepts e = false) (h : scan.script.ending = .done) :
      Pulls accepts scan .finished scan.takeAll.finish
  | failed {error : ScanError} (hnone : ∀ e ∈ scan.script.events, accepts e = false)
      (h : scan.script.ending.error? = some error) : Pulls accepts scan (.failed error) scan.takeAll.finish
  | blocked (hnone : ∀ e ∈ scan.script.events, accepts e = false) (h : scan.script.ending = .hang) :
      Pulls accepts scan .blocked scan.takeAll

/-- An event that is not accepted is taken like those behind it. -/
lemma Pulls.of_take {m : LineMatch} {rest : List LineMatch} {reply : Reply Path} {state : Scan}
    (hevents : scan.script.events = m :: rest) (hm : accepts m = false)
    (h : Pulls accepts (scan.take rest) reply state) : Pulls accepts scan reply state := by
  have hnone (hrest : ∀ e ∈ rest, accepts e = false) : ∀ e ∈ scan.script.events, accepts e = false := by
    intro e he
    rw [hevents] at he
    rcases List.mem_cons.mp he with rfl | he
    · exact hm
    · exact hrest e he
  cases h with
  | @found before behind m' h =>
    rw [takeMany_take]
    have hfirst : IsFirst accepts scan.script.events (m :: before) m' behind := hevents ▸ h.cons hm
    exact .found hfirst
  | finished hrest h =>
    rw [takeAll_take hevents]
    exact .finished (hnone hrest) h
  | failed hrest h =>
    rw [takeAll_take hevents]
    exact .failed (hnone hrest) h
  | blocked hrest h =>
    rw [takeAll_take hevents]
    exact .blocked (hnone hrest) h

/-- Without events the script has come to its end. -/
lemma pulls_atEnd (accepts : LineMatch → Bool) (hevents : scan.script.events = []) :
    Pulls accepts scan (Search.ending scan.atEnd.reply) scan.atEnd.state ∧ scan.atEnd.notes = [] := by
  have hnone : ∀ e ∈ scan.script.events, accepts e = false := by
    rw [hevents]
    exact fun e he => absurd he List.not_mem_nil
  have hall : scan.run = scan.takeAll := by
    obtain ⟨root, pattern, ⟨events, ending⟩, phase, called, emitted, closed⟩ := scan
    obtain rfl : events = [] := hevents
    rfl
  have hfinish : scan.finish = scan.takeAll.finish := by
    rw [← hall]
    rfl
  unfold atEnd
  cases hending : scan.script.ending with
  | done => exact ⟨hfinish ▸ .finished hnone hending, rfl⟩
  | error message => exact ⟨hfinish ▸ .failed hnone (by rw [hending]; rfl), rfl⟩
  | crash => exact ⟨hfinish ▸ .failed hnone (by rw [hending]; rfl), rfl⟩
  | hang => exact ⟨hall ▸ .blocked hnone hending, rfl⟩

end Script.Scan

namespace Search

open Script.Scan

/-- A search takes of a script what it should, and does not warn. -/
theorem pulls_pull (query : Include.Query) (table : ExtensionTable) {scan : Script.Scan} (hphase : scan.phase ≠ .ended)
    (notes : Journal) :
    ∃ state, (pull query table (.scripted scan) notes).state = .scripted state ∧
      Pulls (takes query table) scan (pull query table (.scripted scan) notes).reply state ∧
      (pull query table (.scripted scan) notes).notes.warnings = notes.warnings := by
  -- the induction is on the events still to come
  generalize hevents : scan.script.events = events
  induction events generalizing scan notes with
  | nil =>
    have hnext : scan.next = scan.atEnd := by
      unfold Script.Scan.next
      rw [if_neg hphase, hevents]
    obtain ⟨hpulls, hnotes⟩ := pulls_atEnd (takes query table) hevents
    have hnone : ∀ m, (Feed.next (Scan.scripted scan)).reply ≠ .value m := by
      intro m hm
      have hreply : scan.atEnd.reply = .value m := hnext ▸ hm
      unfold atEnd at hreply
      split at hreply <;> exact nomatch hreply
    rw [pull_of_no_value hnone, show Feed.next (Scan.scripted scan) = scan.atEnd.mapState .scripted from
      congrArg (Turn.mapState Scan.scripted) hnext]
    refine ⟨scan.atEnd.state, rfl, hpulls, ?_⟩
    rw [Journal.warnings_append, show (scan.atEnd.mapState Scan.scripted).notes = [] from hnotes]
    exact List.append_nil _
  | cons m rest ih =>
    have hnext : scan.next = ⟨.value m, scan.take rest, []⟩ := by
      unfold Script.Scan.next
      rw [if_neg hphase, hevents]
    have hvalue : Feed.next (Scan.scripted scan) = ⟨.value m, .scripted (scan.take rest), []⟩ :=
      congrArg (Turn.mapState Scan.scripted) hnext
    rw [pull_of_value (congrArg Turn.reply hvalue), hvalue, List.append_nil]
    by_cases hm : takes query table m = true
    · have hfirst : IsFirst (takes query table) scan.script.events [] m rest := hevents ▸ .nil hm rest
      rw [if_pos hm]
      refine ⟨scan.take rest, rfl, .found hfirst, ?_⟩
      rw [Journal.warnings_append]
      exact List.append_nil _
    · have htake : (scan.take rest).phase ≠ .ended := fun h => nomatch h
      obtain ⟨state, hstate, hpulls, hnotes⟩ := ih htake notes rfl
      rw [if_neg hm]
      exact ⟨state, hstate, hpulls.of_take hevents (eq_false_of_ne_true hm), hnotes⟩

end Search

end Counterpart
