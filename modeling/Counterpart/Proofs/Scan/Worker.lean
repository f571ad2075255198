import Counterpart.Proofs.Scan.Walk
import Counterpart.Scan.Handover
import Mathlib.Data.List.Infix

/-!
# What a worker posts

A worker does the steps of a walk one by one, and looks at the flag from time to time.

* `Worker.future`: all that a worker goes on to post if the flag stays as it is, and of which a step posts the first
  (`Worker.future_step`);
* `Worker.IsOrderly`: a worker fails at most right behind a question, so that once the flag is raised it posts one event
  more at most before it says that it is done (`Worker.IsOrderly.isParting_future`);
* `Worker.load_step`: what it does brings it nearer to its end.
-/

namespace Counterpart.Walk

/-! ## Events to come -/

/-- All events that a walk leads to if the flag stays down. -/
def eventsOf : List Step → List Event
  | [] => [.done]
  | .found m :: rest => .found m :: eventsOf rest
  | .failed e :: _ => [.failed e, .done]
  | _ :: rest => eventsOf rest

/-- All events that a walk leads to when the flag is raised: only what it fails on before the next question or match. -/
def lastEventsOf : List Step → List Event
  | .note _ :: rest => lastEventsOf rest
  | .failed e :: _ => [.failed e, .done]
  | _ => [.done]

/-- The matches among some events. -/
def founds (events : List Event) : List LineMatch :=
  events.filterMap fun
    | .found m => some m
    | .failed _ | .done => none

@[simp] lemma founds_nil : founds [] = [] := rfl

@[simp] lemma founds_append (events more : List Event) : founds (events ++ more) = founds events ++ founds more :=
  List.filterMap_append

/-- The matches among the events are those of the steps. -/
lemma founds_eventsOf (steps : List Step) : founds (eventsOf steps) = matchesOf steps := by
  induction steps with
  | nil => rfl
  | cons step rest ih =>
    cases step with
    | askPlace => exact ih
    | askLines => exact ih
    | found m => exact congrArg (m :: ·) ih
    | note n => exact ih
    | failed e => rfl

/-- When the flag is raised a walk only says that it is done, and what it has failed on if it has. -/
lemma lastEventsOf_cases (steps : List Step) :
    lastEventsOf steps = [.done] ∨ ∃ e, lastEventsOf steps = [.failed e, .done] := by
  induction steps with
  | nil => exact .inl rfl
  | cons step rest ih =>
    cases step with
    | askPlace => exact .inl rfl
    | askLines => exact .inl rfl
    | found m => exact .inl rfl
    | note n => exact ih
    | failed e => exact .inr ⟨e, rfl⟩

/-- When the flag is raised no match is posted any more. -/
lemma founds_lastEventsOf (steps : List Step) : founds (lastEventsOf steps) = [] := by
  rcases lastEventsOf_cases steps with h | ⟨e, h⟩
  · rw [h]
    rfl
  · rw [h]
    rfl

/-- The event with which a walk comes to its end: what it fails on, or that it is done. -/
def endEvent (steps : List Step) : Event :=
  match steps.findSome? Step.error? with
  | some e => .failed e
  | none => .done

/-- Events that come to an end are all the matches and that end. -/
lemma eq_of_prefix_eventsOf {found : List LineMatch} {steps : List Step} {last : Event}
    (hlast : ∀ m, last ≠ .found m) (h : found.map Event.found ++ [last] <+: eventsOf steps) :
    found = matchesOf steps ∧ last = endEvent steps := by
  induction steps generalizing found with
  | nil =>
    cases found with
    | nil => exact ⟨rfl, (List.cons_prefix_cons.mp h).1⟩
    | cons m rest => exact nomatch (List.cons_prefix_cons.mp h).1
  | cons step rest ih =>
    cases step with
    | askPlace => exact ih h
    | askLines => exact ih h
    | note n => exact ih h
    | found m =>
      cases found with
      | nil => exact absurd (List.cons_prefix_cons.mp h).1 (hlast m)
      | cons m' found =>
        obtain ⟨hm, hrest⟩ := List.cons_prefix_cons.mp h
        obtain ⟨hfound, hend⟩ := ih hrest
        exact ⟨by rw [Event.found.inj hm, hfound]; rfl, hend⟩
    | failed e =>
      cases found with
      | nil => exact ⟨rfl, (List.cons_prefix_cons.mp h).1⟩
      | cons m rest => exact nomatch (List.cons_prefix_cons.mp h).1

/-- All events together come to their end. -/
lemma done_mem_eventsOf (steps : List Step) : Event.done ∈ eventsOf steps := by
  induction steps with
  | nil => exact List.mem_singleton.mpr rfl
  | cons step rest ih =>
    cases step with
    | askPlace => exact ih
    | askLines => exact ih
    | note n => exact ih
    | found m => exact List.mem_cons_of_mem _ ih
    | failed e => exact List.mem_cons_of_mem _ (List.mem_singleton.mpr rfl)

namespace Worker

/-- All that a worker goes on to post if the flag stays as it is. -/
def future (raised : Bool) : Worker → List Event
  | .idle steps | .walking steps => if raised then lastEventsOf steps else eventsOf steps
  | .holding m rest => if raised then [.done] else .found m :: eventsOf rest
  | .posting m rest => .found m :: (if raised then lastEventsOf rest else eventsOf rest)
  | .failing e => [.failed e, .done]
  | .finishing => [.done]
  | .stopped => []

/-- Behind a file that is given up nothing is posted but the end. -/
lemma lastEventsOf_behindFile (rest : List Step) : lastEventsOf (behindFile rest) = [.done] := by
  unfold behindFile
  induction rest with
  | nil => rfl
  | cons step rest ih =>
    by_cases hask : step = .askPlace
    · rw [List.dropWhile_cons_of_neg (by simp [hask]), hask]
      rfl
    · rw [List.dropWhile_cons_of_pos (by simp [hask])]
      exact ih

/-- A step posts the first of what is to be posted, or nothing. -/
lemma future_step {raised : Bool} {worker next : Worker} {posted : Option Event}
    (h : worker.step raised = some (posted, next)) :
    worker.future raised = posted.toList ++ next.future raised := by
  cases worker with
  | idle steps => exact nomatch h
  | stopped => exact nomatch h
  | holding m rest => cases raised <;> (cases h; rfl)
  | posting m rest => cases h; rfl
  | failing e => cases h; rfl
  | finishing => cases h; rfl
  | walking rest =>
    cases rest with
    | nil => cases raised <;> (cases h; rfl)
    | cons step rest =>
      cases step with
      | askPlace => cases raised <;> (cases h; rfl)
      | askLines =>
        cases raised with
        | false => cases h; rfl
        | true =>
          cases h
          exact (lastEventsOf_behindFile rest).symm
      | found m => cases raised <;> (cases h; rfl)
      | note n => cases raised <;> (cases h; rfl)
      | failed e => cases raised <;> (cases h; rfl)

/-- When the flag is raised no match is found any more, but for one that is about to be posted. -/
lemma founds_future_raised (raised : Bool) (worker : Worker) :
    founds (worker.future true) <+: founds (worker.future raised) := by
  cases raised with
  | true => exact List.prefix_rfl
  | false =>
    cases worker with
    | idle steps =>
      show founds (lastEventsOf steps) <+: _
      rw [founds_lastEventsOf]
      exact List.nil_prefix
    | walking steps =>
      show founds (lastEventsOf steps) <+: _
      rw [founds_lastEventsOf]
      exact List.nil_prefix
    | holding m rest => exact List.nil_prefix
    | posting m rest =>
      show m :: founds (lastEventsOf rest) <+: m :: founds (eventsOf rest)
      rw [founds_lastEventsOf, List.cons_prefix_cons]
      exact ⟨rfl, List.nil_prefix⟩
    | failing e => exact List.prefix_rfl
    | finishing => exact List.prefix_rfl
    | stopped => exact List.prefix_rfl

/-- A worker that has just posted an event posts no match any more once the flag is raised. -/
lemma founds_future_of_posted {raised : Bool} {worker next : Worker} {event : Event}
    (h : worker.step raised = some (some event, next)) : founds (next.future true) = [] := by
  cases worker with
  | idle steps => exact nomatch h
  | stopped => exact nomatch h
  | holding m rest => exact nomatch h
  | posting m rest =>
    cases h
    exact founds_lastEventsOf rest
  | failing e =>
    cases h
    rfl
  | finishing =>
    cases h
    rfl
  | walking rest =>
    cases rest with
    | nil => exact nomatch h
    | cons step rest => cases step <;> exact nomatch h

/-- A worker that goes on has been started. -/
lemma ne_idle_of_step {raised : Bool} {worker next : Worker} {posted : Option Event}
    (h : worker.step raised = some (posted, next)) (steps : List Step) : next ≠ .idle steps := by
  cases worker with
  | idle steps => exact nomatch h
  | stopped => exact nomatch h
  | holding m rest => cases raised <;> (cases h; exact nofun)
  | posting m rest => cases h; exact nofun
  | failing e => cases h; exact nofun
  | finishing => cases h; exact nofun
  | walking rest =>
    cases rest with
    | nil => cases h; exact nofun
    | cons step rest => cases step <;> cases raised <;> (cases h; exact nofun)

/-- A worker that has been started and has not stopped can go on. -/
lemma step_isSome {raised : Bool} {worker : Worker} (hidle : ∀ steps, worker ≠ .idle steps)
    (hstopped : worker ≠ .stopped) : (worker.step raised).isSome = true := by
  cases worker with
  | idle steps => exact absurd rfl (hidle steps)
  | stopped => exact absurd rfl hstopped
  | holding m rest => rfl
  | posting m rest => rfl
  | failing e => rfl
  | finishing => rfl
  | walking rest =>
    cases rest with
    | nil => rfl
    | cons step rest => cases step <;> rfl

end Worker

/-! ## The order of steps -/

/-- Steps that fail do so right behind a question: behind a match no failure comes before the next question. -/
def IsOrderly : List Step → Prop
  | [] => True
  | .found _ :: rest => lastEventsOf rest = [.done] ∧ IsOrderly rest
  | _ :: rest => IsOrderly rest

/-- Steps stay in order when a file is given up. -/
lemma isOrderly_behindFile {rest : List Step} (h : IsOrderly rest) : IsOrderly (Worker.behindFile rest) := by
  unfold Worker.behindFile
  induction rest with
  | nil => exact h
  | cons step rest ih =>
    cases step with
    | askPlace =>
      rw [List.dropWhile_cons_of_neg (by simp)]
      exact h
    | askLines =>
      rw [List.dropWhile_cons_of_pos (by simp)]
      exact ih h
    | found m =>
      rw [List.dropWhile_cons_of_pos (by simp)]
      exact ih h.2
    | note n =>
      rw [List.dropWhile_cons_of_pos (by simp)]
      exact ih h
    | failed e =>
      rw [List.dropWhile_cons_of_pos (by simp)]
      exact ih h

/-- Steps that are orderly, and do not begin with a failure. -/
def IsCalm (steps : List Step) : Prop := lastEventsOf steps = [.done] ∧ IsOrderly steps

/-- The lines of a file do not fail, and what is calm behind them is calm with them. -/
lemma isCalm_linesSteps {rest : List Step} (h : IsCalm rest) (test : Text → Bool) (file : Path) (lines : List Bytes) :
    IsCalm (linesSteps test file lines ++ rest) := by
  have hsteps : ∀ step ∈ linesSteps test file lines, step = .askLines ∨ ∃ m, step = .found m := by
    intro step hstep
    rcases mem_linesSteps hstep with rfl | ⟨line, -, -, rfl⟩
    · exact .inl rfl
    · exact .inr ⟨_, rfl⟩
  generalize linesSteps test file lines = steps at hsteps
  induction steps with
  | nil => exact h
  | cons step steps ih =>
    have hrest := ih fun step hstep => hsteps step (List.mem_cons_of_mem _ hstep)
    rcases hsteps step List.mem_cons_self with rfl | ⟨m, rfl⟩
    · exact ⟨rfl, hrest.2⟩
    · exact ⟨rfl, hrest⟩

variable {fs : FileSystem} {cwd : Path} {test : Text → Bool}

/-- A file fails only behind its question, and what is calm behind it is calm with it. -/
lemma isCalm_fileSteps {rest : List Step} (h : IsCalm rest) (file : Path) :
    IsCalm (fileSteps fs cwd test file ++ rest) := by
  refine ⟨rfl, ?_⟩
  unfold fileSteps
  rw [List.cons_append]
  show IsOrderly (_ ++ rest)
  split
  · exact h.2
  · exact h.2
  · split
    · exact h.2
    · split
      · exact h.2
      · exact (isCalm_linesSteps h test file _).2

/-- A directory begins with a question, and what is calm behind it is calm with it. -/
lemma isCalm_directorySteps {rest : List Step} (h : IsCalm rest) (dir : Path) (files : List Component) :
    IsCalm (directorySteps fs cwd test dir files ++ rest) := by
  have hfiles : IsCalm (files.flatMap (fun file => fileSteps fs cwd test (dir.child file)) ++ rest) := by
    induction files with
    | nil => exact h
    | cons file files ih =>
      rw [List.flatMap_cons, List.append_assoc]
      exact isCalm_fileSteps ih (dir.child file)
  exact ⟨rfl, hfiles.2⟩

/-- The steps of a walk are in order. -/
lemma isOrderly_steps (fs : FileSystem) (cwd root : Path) (test : Text → Bool) :
    IsOrderly (steps fs cwd root test) := by
  unfold steps
  split
  · exact trivial
  · have hcalm : IsCalm ((fs.tree cwd root).flatMap fun place => directorySteps fs cwd test place.1 place.2) := by
      induction fs.tree cwd root with
      | nil => exact ⟨rfl, trivial⟩
      | cons place places ih => exact isCalm_directorySteps ih place.1 place.2
    exact hcalm.2

/-- A worker that fails at most right behind a question. -/
def Worker.IsOrderly : Worker → Prop
  | .idle steps | .walking steps => Walk.IsOrderly steps
  | .holding _ rest | .posting _ rest => IsCalm rest
  | .failing _ | .finishing | .stopped => True

/-- A worker whose steps are in order keeps them so. -/
lemma Worker.IsOrderly.step {raised : Bool} {worker next : Worker} {posted : Option Event} (h : worker.IsOrderly)
    (hstep : worker.step raised = some (posted, next)) : next.IsOrderly := by
  cases worker with
  | idle steps => exact nomatch hstep
  | stopped => exact nomatch hstep
  | holding m rest =>
    cases raised with
    | false => cases hstep; exact h
    | true => cases hstep; exact trivial
  | posting m rest => cases hstep; exact h.2
  | failing e => cases hstep; exact trivial
  | finishing => cases hstep; exact trivial
  | walking rest =>
    cases rest with
    | nil => cases hstep; exact trivial
    | cons step rest =>
      cases step with
      | askPlace =>
        cases raised with
        | false => cases hstep; exact h
        | true => cases hstep; exact trivial
      | askLines =>
        cases raised with
        | false => cases hstep; exact h
        | true => cases hstep; exact isOrderly_behindFile h
      | found m => cases hstep; exact h
      | note n => cases hstep; exact h
      | failed e => cases hstep; exact trivial

/-- What is posted when the flag is raised: one event at most before the worker says that it is done. -/
def IsParting (events : List Event) : Prop :=
  events <+: [.done] ∨ ∃ event, event ≠ .done ∧ events <+: [event, .done]

/-- What is posted when the flag is raised takes leave. -/
lemma isParting_lastEventsOf (steps : List Step) : IsParting (lastEventsOf steps) := by
  rcases lastEventsOf_cases steps with h | ⟨e, h⟩
  · exact .inl (by rw [h])
  · exact .inr ⟨.failed e, by simp, by rw [h]⟩

/-- A front part of a leave is one. -/
lemma IsParting.of_prefix {events more : List Event} (h : IsParting events) (hmore : more <+: events) :
    IsParting more :=
  h.imp hmore.trans fun ⟨event, hevent, hprefix⟩ => ⟨event, hevent, hmore.trans hprefix⟩

/-- When the flag is raised, all that an orderly worker still posts takes leave. -/
lemma Worker.IsOrderly.isParting_future {worker : Worker} (h : worker.IsOrderly) : IsParting (worker.future true) := by
  cases worker with
  | idle steps => exact isParting_lastEventsOf steps
  | walking steps => exact isParting_lastEventsOf steps
  | holding m rest => exact .inl List.prefix_rfl
  | posting m rest =>
    -- behind a match there is nothing to fail on
    refine .inr ⟨.found m, by simp, ?_⟩
    show Event.found m :: lastEventsOf rest <+: _
    rw [h.1]
  | failing e => exact .inr ⟨.failed e, by simp, List.prefix_rfl⟩
  | finishing => exact .inl List.prefix_rfl
  | stopped => exact .inl List.nil_prefix

/-! ## The end of a worker -/

/-- Starting a worker does not change what it is to post. -/
lemma Worker.future_begin (raised : Bool) (worker : Worker) : worker.begin.future raised = worker.future raised := by
  cases worker <;> rfl

/-- A worker that has not stopped is to say that it is done. -/
lemma Worker.done_mem_future {worker : Worker} (h : worker ≠ .stopped) : Event.done ∈ worker.future true := by
  have hlast : ∀ steps, Event.done ∈ lastEventsOf steps := by
    intro steps
    rcases lastEventsOf_cases steps with h | ⟨e, h⟩ <;> simp [h]
  cases worker with
  | idle steps => exact hlast steps
  | walking steps => exact hlast steps
  | holding m rest => exact List.mem_singleton.mpr rfl
  | posting m rest => exact List.mem_cons_of_mem _ (hlast rest)
  | failing e => exact List.mem_cons_of_mem _ (List.mem_singleton.mpr rfl)
  | finishing => exact List.mem_singleton.mpr rfl
  | stopped => exact absurd rfl h

namespace Worker

/-- A bound on what a worker and its consumer still have to do. -/
def load : Worker → Nat
  | .idle steps | .walking steps => 5 * steps.length + 4
  | .holding _ rest => 5 * rest.length + 8
  | .posting _ rest => 5 * rest.length + 7
  | .failing _ => 6
  | .finishing => 3
  | .stopped => 0

/-- A step makes the load less, by what it costs to take and to hand out what it posts. -/
lemma load_step {raised : Bool} {worker next : Worker} {posted : Option Event}
    (h : worker.step raised = some (posted, next)) : next.load + 2 * posted.toList.length < worker.load := by
  cases worker with
  | idle steps => exact nomatch h
  | stopped => exact nomatch h
  | holding m rest => cases raised <;> (cases h; simp [load])
  | posting m rest => cases h; simp [load]
  | failing e => cases h; simp [load]
  | finishing => cases h; simp [load]
  | walking rest =>
    cases rest with
    | nil => cases h; simp [load]
    | cons step rest =>
      cases step with
      | askLines =>
        have hless : (behindFile rest).length ≤ rest.length := (List.dropWhile_sublist _).length_le
        cases raised <;> (cases h; simp [load]; try omega)
      | askPlace => cases raised <;> (cases h; simp [load])
      | found m => cases h; simp [load]; omega
      | note n => cases h; simp [load]
      | failed e => cases h; simp [load]; omega

end Worker

end Counterpart.Walk
