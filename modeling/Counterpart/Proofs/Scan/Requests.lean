import Counterpart.Scan.Feed
import Mathlib.Tactic.Lemma

/-!
# Any use of a feed

Every request is served by asking for the next value, once or several times, and by closing.  So what these two keep
is kept by any sequence of requests, and a feed that they have brought to its end has ended for good.

* `Keeps.after`: what a value and a closing keep, requests keep;
* `exists_last_of_drain`: a feed is drained up to a last request, which brings nothing;
* `IsEnd.after`: a feed that has given a last answer has ended;
* `IsEnd.next_after`: from then on it says that it has.
-/

namespace Counterpart

/-- The values that a reply brings: one or none. -/
def Reply.values {α : Type} : Reply α → List α
  | .value a => [a]
  | .finished | .failed _ | .blocked => []

/-- Whether a feed that gives an answer has ended with it. -/
def Answer.isLast {α : Type} : Answer α → Bool
  | .ended | .values _ | .closed | .cancelled | .failed _ => true
  | .value _ | .pending => false

namespace Feed

variable {σ α : Type} [Feed σ α]

/-- The values that are handed out to serve a request, also if the answer does not tell them as the feed fails. -/
def brought (s : σ) : Request → List α
  | .next | .cancel => (next s).reply.values
  | .all => (drain s).1
  | .close => []

/-- The values that are handed out in the course of some requests. -/
def handedOut (s : σ) : List Request → List α
  | [] => []
  | r :: rest => brought s r ++ handedOut (serve s r).2.1 rest

/-- The answers to some requests. -/
def answers (s : σ) : List Request → List (Answer α)
  | [] => []
  | r :: rest => (serve s r).1 :: answers (serve s r).2.1 rest

/-! ## Serving a request -/

variable {s : σ}

lemma state_serve_close : (serve s .close).2.1 = close s := rfl

lemma state_serve_all : (serve s .all).2.1 = (drain s).2.state := by
  unfold serve
  dsimp only
  split <;> rfl

lemma isLast_serve_all : (serve s .all).1.isLast = (Answer.ofReply (drain s).2.reply).isLast := by
  unfold serve
  dsimp only
  split
  · next hreply =>
    rw [hreply]
    rfl
  · rfl

/-- A request that is called off has the feed closed if nothing came. -/
lemma serve_cancel_of_blocked (h : (next s).reply = .blocked) :
    (serve s .cancel).1 = .cancelled ∧ (serve s .cancel).2.1 = close (next s).state := by
  unfold serve
  dsimp only
  rw [h]
  exact ⟨rfl, rfl⟩

/-- A request that is called off is like any other if something came. -/
lemma serve_cancel_of_ne_blocked (h : (next s).reply ≠ .blocked) :
    (serve s .cancel).1 = Answer.ofReply (next s).reply ∧ (serve s .cancel).2.1 = (next s).state := by
  unfold serve
  dsimp only
  cases hreply : (next s).reply with
  | blocked => exact absurd hreply h
  | value a => exact ⟨rfl, rfl⟩
  | finished => exact ⟨rfl, rfl⟩
  | failed e => exact ⟨rfl, rfl⟩

/-! ## What is kept -/

/-- What holds of a feed and the values handed out so far, and goes on to hold when the next value is asked for and
when the feed is closed. -/
structure Keeps (Inv : σ → List α → Prop) : Prop where
  next : ∀ {s : σ} {handed : List α}, Inv s handed →
    Inv (Feed.next s).state (handed ++ (Feed.next s).reply.values)
  close : ∀ {s : σ} {handed : List α}, Inv s handed → Inv (Feed.close s) handed

variable {Inv : σ → List α → Prop} {handed : List α}

lemma Keeps.drain (h : Keeps Inv) {s : σ} {handed : List α} (hs : Inv s handed) :
    Inv (drain s).2.state (handed ++ (drain s).1) := by
  -- the induction is on the values still to come
  have hnext := h.next hs
  by_cases hvalue : ∃ a : α, (Feed.next s).reply = .value a
  · obtain ⟨a, ha⟩ := hvalue
    have hless : left (Feed.next s).state < left s := left_next ha
    rw [ha] at hnext
    have hrest := h.drain hnext
    rw [drain_of_value ha]
    rwa [List.append_assoc] at hrest
  · have hnone : ∀ a : α, (Feed.next s).reply ≠ .value a := fun a ha => hvalue ⟨a, ha⟩
    rw [drain_of_no_value hnone]
    have hvalues : (Feed.next s).reply.values = [] := by
      cases hreply : (Feed.next s).reply with
      | value a => exact absurd hreply (hnone a)
      | finished => rfl
      | failed e => rfl
      | blocked => rfl
    rwa [hvalues] at hnext
termination_by left s

/-- What a value and a closing keep, a request keeps. -/
lemma Keeps.serve (h : Keeps Inv) (hs : Inv s handed) (r : Request) :
    Inv (serve s r).2.1 (handed ++ brought s r) := by
  cases r with
  | next => exact h.next hs
  | all =>
    rw [state_serve_all]
    exact h.drain hs
  | close =>
    rw [state_serve_close, show brought s .close = [] from rfl, List.append_nil]
    exact h.close hs
  | cancel =>
    by_cases hblocked : (Feed.next s).reply = .blocked
    · rw [(serve_cancel_of_blocked hblocked).2]
      exact h.close (h.next hs)
    · rw [(serve_cancel_of_ne_blocked hblocked).2]
      exact h.next hs

/-- What a value and a closing keep, any use of the feed keeps. -/
theorem Keeps.after (h : Keeps Inv) (hs : Inv s handed) (requests : List Request) :
    Inv (after s requests) (handed ++ handedOut s requests) := by
  induction requests generalizing s handed with
  | nil =>
    rw [show handedOut s [] = [] from rfl, List.append_nil]
    exact hs
  | cons r rest ih =>
    have hrest := ih (h.serve hs r)
    rwa [List.append_assoc] at hrest

/-- What does not depend on the values handed out. -/
lemma Keeps.after_state {P : σ → Prop} (h : Keeps fun (s : σ) (_ : List α) => P s) (hs : P s)
    (requests : List Request) : P (Feed.after s requests) := by
  induction requests generalizing s with
  | nil => exact hs
  | cons r rest ih => exact ih (@Keeps.serve σ α _ s _ [] h hs r)

/-- What closing keeps is kept as long as nothing else is requested. -/
lemma after_of_closes {P : σ → Prop} (hclose : ∀ {s : σ}, P s → P (close s)) (hs : P s) {requests : List Request}
    (hrequests : ∀ r ∈ requests, r = .close) : P (after s requests) := by
  induction requests generalizing s with
  | nil => exact hs
  | cons r rest ih =>
    obtain rfl := hrequests r List.mem_cons_self
    exact ih (hclose hs) fun r hr => hrequests r (List.mem_cons_of_mem _ hr)

/-! ## Ends -/

/-- What says of a feed that it has ended: it has nothing to hand out any more, and that stays so.  A feed has ended
when it is closed, when it says that it has, and when it has failed. -/
structure IsEnd (Over : σ → Prop) : Prop where
  next : ∀ {s : σ}, Over s → (Feed.next s).reply = .finished ∧ Over (Feed.next s).state
  close : ∀ s : σ, Over (Feed.close s)
  finished : ∀ {s : σ}, (Feed.next s).reply = .finished → Over (Feed.next s).state
  failed : ∀ {s : σ} {e : ScanError}, (Feed.next s).reply = .failed e → Over (Feed.next s).state

variable {Over : σ → Prop}

lemma IsEnd.keeps (h : IsEnd Over) : Keeps fun (s : σ) (_ : List α) => Over s :=
  ⟨fun hs => (h.next hs).2, fun _ => h.close _⟩

/-- A feed is drained by requests that bring values and one that brings none.  What holds of the feed and the notes
written so far, and goes on to hold when a value comes, holds before that last request. -/
lemma exists_last_of_drain {P : σ → Journal → Prop}
    (hvalue : ∀ {s : σ} {notes : Journal} {a : α}, P s notes → (next s).reply = .value a →
      P (next s).state (notes ++ (next s).notes))
    {s : σ} (notes : Journal) (hs : P s notes) :
    ∃ t more, P t more ∧ (drain s).2.reply = (next t).reply ∧ (drain s).2.state = (next t).state ∧
      notes ++ (drain s).2.notes = more ++ (next t).notes := by
  by_cases hcomes : ∃ a : α, (next s).reply = .value a
  · obtain ⟨a, ha⟩ := hcomes
    have hless : left (next s).state < left s := left_next ha
    rw [drain_of_value ha]
    obtain ⟨t, more, ht, hreply, hstate, hnotes⟩ := exists_last_of_drain hvalue _ (hvalue hs ha)
    refine ⟨t, more, ht, hreply, hstate, ?_⟩
    rw [← hnotes, List.append_assoc]
  · have hnone : ∀ a : α, (next s).reply ≠ .value a := fun a ha => hcomes ⟨a, ha⟩
    rw [drain_of_no_value hnone]
    exact ⟨s, notes, hs, rfl, rfl, rfl⟩
termination_by left s

/-- A feed that gives a last answer has ended. -/
lemma IsEnd.serve (h : IsEnd Over) {r : Request} (hlast : (serve s r).1.isLast = true) : Over (serve s r).2.1 := by
  -- a reply that is the last answer, as it stands, is an end or a failure
  have hreply : ∀ t : σ, (Answer.ofReply (Feed.next t).reply).isLast = true → Over (Feed.next t).state := by
    intro t ht
    cases hcase : (Feed.next t).reply with
    | value a => simp [hcase, Answer.ofReply, Answer.isLast] at ht
    | finished => exact h.finished hcase
    | failed e => exact h.failed hcase
    | blocked => simp [hcase, Answer.ofReply, Answer.isLast] at ht
  cases r with
  | next => exact hreply s hlast
  | all =>
    obtain ⟨t, -, -, htreply, htstate, -⟩ :=
      exists_last_of_drain (P := fun _ _ => True) (s := s) (fun _ _ => trivial) [] trivial
    rw [isLast_serve_all, htreply] at hlast
    rw [state_serve_all, htstate]
    exact hreply t hlast
  | close => exact h.close s
  | cancel =>
    by_cases hblocked : (Feed.next s).reply = .blocked
    · rw [(serve_cancel_of_blocked hblocked).2]
      exact h.close _
    · obtain ⟨hanswer, hstate⟩ := serve_cancel_of_ne_blocked hblocked
      rw [hanswer] at hlast
      rw [hstate]
      exact hreply s hlast

/-- A feed that has given a last answer in the course of some requests has ended. -/
theorem IsEnd.after (h : IsEnd Over) {requests : List Request}
    (hlast : ∃ a ∈ answers s requests, a.isLast = true) : Over (after s requests) := by
  induction requests generalizing s with
  | nil =>
    obtain ⟨a, ha, -⟩ := hlast
    exact absurd ha List.not_mem_nil
  | cons r rest ih =>
    obtain ⟨a, ha, halast⟩ := hlast
    rcases List.mem_cons.mp ha with rfl | ha
    · -- nothing brings it back to life
      exact h.keeps.after_state (h.serve halast) rest
    · exact ih ⟨a, ha, halast⟩

/-- A feed that has given a last answer says from then on that it has ended. -/
lemma IsEnd.next_after (h : IsEnd Over) {requests : List Request}
    (hlast : ∃ a ∈ answers s requests, a.isLast = true) : (Feed.serve (Feed.after s requests) .next).1 = .ended := by
  obtain ⟨hreply, -⟩ := h.next (h.after hlast)
  show Answer.ofReply (Feed.next (Feed.after s requests)).reply = .ended
  rw [hreply]
  rfl

end Feed

end Counterpart
