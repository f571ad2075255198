import Counterpart.Scan.Walk

/-!
# Walks beside their consumer

A walk runs on a worker of its own.  What it finds goes into a queue, first in, first out, and its consumer takes it
from there.  When the consumer ends, in whatever way, a flag is raised; the worker looks at it from time to time and
then gives up.  The two go on side by side: what each of them does is cut into steps so small that the other one may
do something between any two of them.
-/

namespace Counterpart

namespace Walk

/-- What a worker posts. -/
inductive Event
  | found (m : LineMatch)
  | failed (error : LookError)
  | done
deriving Repr, DecidableEq

/-! ## The worker -/

/-- What a worker is at. -/
inductive Worker
  /-- It has not been started. -/
  | idle (steps : List Step)
  | walking (rest : List Step)
  /-- The walk has handed it a match, and it has not looked at the flag since. -/
  | holding (m : LineMatch) (rest : List Step)
  /-- It has found the flag down, and posts the match. -/
  | posting (m : LineMatch) (rest : List Step)
  | failing (error : LookError)
  /-- It posts that it is done. -/
  | finishing
  | stopped
deriving Repr, DecidableEq

namespace Worker

/-- The steps behind the lines of a file that is given up: from the question for the next place on. -/
def behindFile (rest : List Step) : List Step := rest.dropWhile (· ≠ .askPlace)

/-- What a worker does next, by whether the flag is raised: what it posts, if it posts anything, and what it is at
then. -/
def step (raised : Bool) : Worker → Option (Option Event × Worker)
  | .idle _ | .stopped => none
  | .walking [] => some (none, .finishing)
  | .walking (.askPlace :: rest) => some (none, if raised then .finishing else .walking rest)
  | .walking (.askLines :: rest) => some (none, .walking (if raised then behindFile rest else rest))
  | .walking (.found m :: rest) => some (none, .holding m rest)
  | .walking (.note _ :: rest) => some (none, .walking rest)
  | .walking (.failed e :: _) => some (none, .failing e)
  | .holding m rest => some (none, if raised then .finishing else .posting m rest)
  | .posting m rest => some (some (.found m), .walking rest)
  | .failing e => some (some (.failed e), .finishing)
  | .finishing => some (some .done, .stopped)

/-- A worker that is started. -/
def begin : Worker → Worker
  | .idle steps => .walking steps
  | worker => worker

end Worker

/-! ## Worker and consumer -/

/-- What a consumer is at. -/
inductive Consumer
  /-- It has not been asked for anything. -/
  | created
  /-- It has been asked for the next match, and waits for an event. -/
  | waiting
  /-- It has handed out a match. -/
  | offering
  | finished
  | failed (error : ScanError)
  | closed
deriving Repr, DecidableEq

/-- A worker, its consumer, and what is between them. -/
structure Handover where
  root : Path
  worker : Worker
  consumer : Consumer := .created
  /-- The events that have been posted and not been taken, first ones first. -/
  queue : List Event := []
  /-- Whether the flag is raised. -/
  raised : Bool := false
  /-- Whether there is still someone to whom events can be posted. -/
  listening : Bool := true
  /-- All events posted so far. -/
  posted : List Event := []
  /-- All matches handed out so far. -/
  handed : List LineMatch := []
deriving Repr, DecidableEq

/-- What may happen next. -/
inductive Act
  /-- The worker does what it is at. -/
  | work
  /-- The consumer is asked for the next match; with the first request it starts the worker. -/
  | ask
  /-- The consumer takes an event. -/
  | take
  /-- The consumer is closed, or given up while it waits. -/
  | close
  /-- All listening ends. -/
  | shut
deriving Repr, DecidableEq

namespace Handover

/-- A walk below a directory that nobody has asked for anything. -/
def start (fs : FileSystem) (cwd root : Path) (test : Text → Bool) : Handover where
  root := root
  worker := .idle (steps fs cwd root test)

/-- An event is posted.  When nobody listens any more it is lost, and the flag is raised. -/
def post (h : Handover) (event : Event) : Handover :=
  if h.listening then { h with queue := h.queue ++ [event], posted := h.posted ++ [event] }
  else { h with raised := true }

/-- The worker does what it is at. -/
def work (h : Handover) : Option Handover :=
  match h.worker.step h.raised with
  | none => none
  | some (none, worker) => some { h with worker := worker }
  | some (some event, worker) => some ({ h with worker := worker }.post event)

/-- The consumer is asked for the next match. -/
def ask (h : Handover) : Option Handover :=
  match h.consumer with
  | .created => some { h with consumer := .waiting, worker := h.worker.begin }
  | .offering => some { h with consumer := .waiting }
  | .waiting | .finished | .failed _ | .closed => none

/-- A waiting consumer takes the first event: it hands out a match, and otherwise ends and raises the flag. -/
def take (h : Handover) : Option Handover :=
  if h.consumer = .waiting then
    match h.queue with
    | [] => none
    | .found m :: rest => some { h with queue := rest, consumer := .offering, handed := h.handed ++ [m] }
    | .failed e :: rest =>
      some { h with queue := rest, consumer := .failed (.walk h.root e), raised := true }
    | .done :: rest => some { h with queue := rest, consumer := .finished, raised := true }
  else none

/-- The consumer is closed.  One that has started the worker raises the flag. -/
def close (h : Handover) : Option Handover :=
  match h.consumer with
  | .created => some { h with consumer := .closed }
  | .waiting | .offering => some { h with consumer := .closed, raised := true }
  | .finished | .failed _ | .closed => none

/-- What comes of an act; nothing if it is not possible.  The consumer does nothing when all listening has ended. -/
def act (h : Handover) : Act → Option Handover
  | .work => h.work
  | .ask => if h.listening then h.ask else none
  | .take => if h.listening then h.take else none
  | .close => if h.listening then h.close else none
  | .shut => if h.listening then some { h with listening := false } else none

/-- What comes of some acts, one after the other; nothing if one of them is not possible. -/
def run (h : Handover) : List Act → Option Handover
  | [] => some h
  | a :: rest => (h.act a).bind fun h => h.run rest

end Handover

end Walk

end Counterpart
