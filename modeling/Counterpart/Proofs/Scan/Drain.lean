import Counterpart.Search
import Mathlib.Tactic.Lemma

/-!
# Draining feeds

What a feed hands out in all, and what a search makes of it.

* `drain_congr`: feeds that answer alike now are drained alike;
* `pull_of_find?` and `pull_of_none`: a search gives the first match of its scan that its query accepts, and
  otherwise ends as the scan does.
-/

namespace Counterpart

namespace Feed

variable {σ α : Type} [Feed σ α]

/-- Feeds that answer alike now are drained alike, but for the notes. -/
lemma drain_congr {s t : σ} (hreply : (next s).reply = (next t).reply) (hstate : (next s).state = (next t).state) :
    (drain s).1 = (drain t).1 ∧ (drain s).2.reply = (drain t).2.reply ∧
      (drain s).2.state = (drain t).2.state := by
  by_cases hvalue : ∃ a : α, (next t).reply = .value a
  · obtain ⟨a, ht⟩ := hvalue
    rw [drain_of_value ht, drain_of_value (hreply.trans ht), hstate]
    exact ⟨rfl, rfl, rfl⟩
  · have hnone : ∀ a : α, (next t).reply ≠ .value a := fun a ha => hvalue ⟨a, ha⟩
    rw [drain_of_no_value hnone, drain_of_no_value (by rwa [hreply])]
    exact ⟨rfl, hreply, hstate⟩

end Feed

namespace Search

variable {query : Include.Query} {table : ExtensionTable}

/-- Whether a query accepts a match. -/
def takes (query : Include.Query) (table : ExtensionTable) (m : LineMatch) : Bool :=
  query.accepts table m.path m.text

lemma pull_of_value {scan : Scan} {notes : Journal} {m : LineMatch}
    (h : (Feed.next scan).reply = .value m) :
    pull query table scan notes =
      if takes query table m then
        ⟨.value m.path, (Feed.next scan).state, notes ++ (Feed.next scan).notes ++ [foundNote query m.path]⟩
      else pull query table (Feed.next scan).state (notes ++ (Feed.next scan).notes) := by
  rw [pull]
  split
  · next m' hm =>
    obtain rfl : m' = m := Reply.value.inj (hm.symm.trans h)
    rfl
  all_goals next hm => exact absurd ((hm : (Feed.next scan).reply = _).symm.trans h) (by simp)

/-- A reply that brings no match, as one that brings no file. -/
def ending : Reply LineMatch → Reply Path
  | .value _ | .finished => .finished
  | .failed e => .failed e
  | .blocked => .blocked

lemma pull_of_no_value {scan : Scan} {notes : Journal} (h : ∀ m, (Feed.next scan).reply ≠ .value m) :
    pull query table scan notes =
      ⟨ending (Feed.next scan).reply, (Feed.next scan).state, notes ++ (Feed.next scan).notes⟩ := by
  rw [pull]
  split
  · next m hm => exact absurd hm (h m)
  all_goals next hm => rw [show (Feed.next scan).reply = _ from hm]; rfl

/-- The first match that the query accepts is the one whose file is given. -/
lemma pull_of_find? {scan : Scan} {m : LineMatch} (notes : Journal)
    (h : (Feed.drain scan).1.find? (takes query table) = some m) :
    (pull query table scan notes).reply = .value m.path := by
  -- the induction is on the matches still to come
  by_cases hvalue : ∃ m', (Feed.next scan).reply = .value m'
  · obtain ⟨m', hm'⟩ := hvalue
    have hless : Feed.left (Feed.next scan).state < Feed.left scan := Feed.left_next hm'
    rw [Feed.drain_of_value hm'] at h
    rw [pull_of_value hm']
    by_cases haccept : takes query table m' = true
    · rw [List.find?_cons_of_pos haccept] at h
      rw [if_pos haccept, ← Option.some.inj h]
    · rw [List.find?_cons_of_neg haccept] at h
      rw [if_neg haccept]
      exact pull_of_find? _ h
  · have hnone : ∀ m', (Feed.next scan).reply ≠ .value m' := fun m' hm' => hvalue ⟨m', hm'⟩
    rw [Feed.drain_of_no_value hnone] at h
    exact absurd h (by simp)
termination_by Feed.left scan

/-- Without such a match the search ends as its scan does. -/
lemma pull_of_none {scan : Scan} (notes : Journal)
    (h : (Feed.drain scan).1.find? (takes query table) = none) :
    (pull query table scan notes).reply = ending (Feed.drain scan).2.reply ∧
      (pull query table scan notes).state = (Feed.drain scan).2.state := by
  by_cases hvalue : ∃ m, (Feed.next scan).reply = .value m
  · obtain ⟨m, hm⟩ := hvalue
    have hless : Feed.left (Feed.next scan).state < Feed.left scan := Feed.left_next hm
    rw [Feed.drain_of_value hm] at h
    rw [pull_of_value hm, Feed.drain_of_value hm]
    by_cases haccept : takes query table m = true
    · rw [List.find?_cons_of_pos haccept] at h
      exact absurd h (by simp)
    · rw [List.find?_cons_of_neg haccept] at h
      rw [if_neg haccept]
      exact pull_of_none _ h
  · have hnone : ∀ m, (Feed.next scan).reply ≠ .value m := fun m hm => hvalue ⟨m, hm⟩
    rw [Feed.drain_of_no_value hnone, pull_of_no_value hnone]
    exact ⟨rfl, rfl⟩
termination_by Feed.left scan

/-- What a search gives is the file of a match of its scan, one that the query accepts. -/
lemma exists_match_of_pull {scan : Scan} {notes : Journal} {source : Path}
    (h : (pull query table scan notes).reply = .value source) :
    ∃ m ∈ (Feed.drain scan).1, takes query table m = true ∧ m.path = source := by
  cases hfind : (Feed.drain scan).1.find? (takes query table) with
  | some m =>
    have hpull := pull_of_find? notes hfind
    exact ⟨m, List.mem_of_find?_eq_some hfind, List.find?_some hfind, Reply.value.inj (hpull.symm.trans h)⟩
  | none =>
    have hend := (pull_of_none notes hfind).1.symm.trans h
    cases hreply : (Feed.drain scan).2.reply <;> rw [hreply] at hend <;> exact nomatch hend

/-- What a search finds whose scan comes to its end: the file of the first match that the query accepts. -/
lemma reply_pull_of_finished {scan : Scan} (h : (Feed.drain scan).2.reply = .finished) :
    (pull query table scan []).reply =
      match ((Feed.drain scan).1.find? (takes query table)).map (·.path) with
      | some source => .value source
      | none => .finished := by
  cases hfind : (Feed.drain scan).1.find? (takes query table) with
  | some m => exact pull_of_find? [] hfind
  | none =>
    rw [(pull_of_none [] hfind).1, h]
    rfl

end Search

end Counterpart
