import Counterpart.Scan.Basic

/-!
# Scripted scans

A scan whose events and end are laid down beforehand.  It looks at no file, and keeps account of how it was
used: with what it was started, how much was taken from it, and whether it was closed.
-/

namespace Counterpart

/-- How a scripted scan ends when its events have run out. -/
inductive Ending
  | done
  | error (message : Text)
  /-- The scan breaks down, with an error of a kind that nobody expects of a search.  That something took too long is
  not of this kind. -/
  | crash
  /-- The scan waits for ever. -/
  | hang
deriving Repr, DecidableEq

/-- The events of a scripted scan, and its end. -/
structure Script where
  events : List LineMatch
  ending : Ending
deriving Repr, DecidableEq

namespace Script

/-- How far a scripted scan is. -/
inductive Phase
  | waiting
  | running
  | ended
deriving Repr, DecidableEq

/-- A scripted scan. -/
structure Scan where
  root : Path
  pattern : Text
  script : Script
  phase : Phase := .waiting
  /-- Whether it was started. -/
  called : Bool := false
  /-- How many events were taken. -/
  emitted : Nat := 0
  /-- Whether it has come to its end or was closed after its start. -/
  closed : Bool := false
deriving Repr, DecidableEq

namespace Scan

/-- The scan at its end. -/
def finish (scan : Scan) : Scan := { scan with phase := .ended, called := true, closed := true }

/-- The scan while it runs. -/
def run (scan : Scan) : Scan := { scan with phase := .running, called := true }

/-- The scan with one event taken. -/
def take (scan : Scan) (rest : List LineMatch) : Scan :=
  { scan.run with script := { scan.script with events := rest }, emitted := scan.emitted + 1 }

/-- What happens when the events have run out. -/
def atEnd (scan : Scan) : Turn Scan LineMatch :=
  match scan.script.ending with
  | .done => ⟨.finished, scan.finish, []⟩
  | .error message => ⟨.failed (.scripted message), scan.finish, []⟩
  | .crash => ⟨.failed .breakdown, scan.finish, []⟩
  | .hang => ⟨.blocked, scan.run, []⟩

/-- The next event. -/
def next (scan : Scan) : Turn Scan LineMatch :=
  if scan.phase = .ended then ⟨.finished, scan, []⟩
  else match scan.script.events with
    | m :: rest => ⟨.value m, scan.take rest, []⟩
    | [] => scan.atEnd

/-- The scan closed. -/
def close (scan : Scan) : Scan :=
  match scan.phase with
  | .waiting => { scan with phase := .ended }
  | .running => scan.finish
  | .ended => scan

/-- A bound on the events still to come. -/
def left (scan : Scan) : Nat := scan.script.events.length

/-- An event uses up one of those still to come. -/
theorem left_next {scan : Scan} {m : LineMatch} (h : scan.next.reply = .value m) :
    scan.next.state.left < scan.left := by
  unfold next at h ⊢
  split at h
  · simp at h
  · next hphase =>
    rw [if_neg hphase]
    split at h
    · next hevents =>
      show _ < scan.script.events.length
      rw [hevents]
      exact Nat.lt_succ_self _
    · unfold atEnd at h
      split at h <;> simp at h

end Scan

end Script

end Counterpart
