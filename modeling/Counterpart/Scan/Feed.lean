import Counterpart.Scan.Basic

/-!
# Feeds

A feed hands out values on request, finitely many of them.  This module says what may be requested of any feed
and what is answered: one value, all that are left, or an end before its time.
-/

namespace Counterpart

/-- What hands out values of type `α` on request; `σ` is what is left to do. -/
class Feed (σ : Type) (α : outParam Type) where
  next : σ → Turn σ α
  close : σ → σ
  /-- A bound on the values still to come. -/
  left : σ → Nat
  left_next : ∀ {s : σ} {a : α}, (next s).reply = .value a → left (next s).state < left s

/-- A request to a feed. -/
inductive Request
  | next
  /-- All that are left. -/
  | all
  | close
  /-- One more value, but only if nobody has to wait for it; otherwise the feed is closed. -/
  | cancel
deriving Repr, DecidableEq

/-- The answer to a request. -/
inductive Answer (α : Type)
  | value (a : α)
  | ended
  | values (as : List α)
  | closed
  | cancelled
  | failed (error : ScanError)
  /-- There is no answer, and never will be. -/
  | pending
deriving Repr, DecidableEq

/-- The answer to a request for the next value. -/
def Answer.ofReply {α : Type} : Reply α → Answer α
  | .value a => .value a
  | .finished => .ended
  | .failed e => .failed e
  | .blocked => .pending

namespace Feed

variable {σ α : Type} [Feed σ α]

/-- Requests values until none comes: the values, and the turn that brought none. -/
def drain (s : σ) : List α × Turn σ α :=
  let turn := next s
  match h : turn.reply with
  | .value a =>
    have : left (next s).state < left s := left_next h
    let (as, last) := drain turn.state
    (a :: as, { last with notes := turn.notes ++ last.notes })
  | .finished | .failed _ | .blocked => ([], turn)
termination_by left s

/-- Serves a request: the answer, what is left then, and the notes written on the way. -/
def serve (s : σ) : Request → Answer α × σ × Journal
  | .next =>
    let turn := next s
    (Answer.ofReply turn.reply, turn.state, turn.notes)
  | .all =>
    let (as, last) := drain s
    match last.reply with
    | .finished => (.values as, last.state, last.notes)
    | other => (Answer.ofReply other, last.state, last.notes)
  | .close => (.closed, close s, [])
  | .cancel =>
    let turn := next s
    match turn.reply with
    | .blocked => (.cancelled, close turn.state, turn.notes)
    | other => (Answer.ofReply other, turn.state, turn.notes)

/-- A feed after some requests. -/
def after (s : σ) (requests : List Request) : σ := requests.foldl (fun s r => (serve s r).2.1) s

theorem drain_of_value {s : σ} {a : α} (h : (next s).reply = .value a) :
    drain s = (a :: (drain (next s).state).1,
      { (drain (next s).state).2 with notes := (next s).notes ++ (drain (next s).state).2.notes }) := by
  rw [drain]
  split
  · next b hb =>
    obtain rfl : b = a := by simpa using hb.symm.trans h
    rfl
  all_goals next hb => exact absurd (hb.symm.trans h) (by simp)

theorem drain_of_no_value {s : σ} (h : ∀ a : α, (next s).reply ≠ .value a) : drain s = ([], next s) := by
  rw [drain]
  split
  · next b hb => exact absurd hb (h b)
  all_goals rfl

end Feed

end Counterpart
