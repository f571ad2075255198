import Counterpart.Proofs.Scan.Worker

/-!
# What a consumer hands out

Whatever worker and consumer do, one act after the other, the consumer hands out what the walk finds, in order.

* `Handover.Leads`: what can come of an act;
* `Handover.Sound`: what is kept whatever happens;
* `Handover.Undisturbed`: what is kept as long as nothing is closed;
* `Handover.eq_drain`: a consumer that is left alone hands out what a scan by walking hands out.
-/

namespace Counterpart.Walk

/-- The reply that a consumer has ended with, if it has come to its end. -/
def Consumer.reply? : Consumer → Option (Reply LineMatch)
  | .finished => some .finished
  | .failed e => some (.failed e)
  | .created | .waiting | .offering | .closed => none

/-! ## What an act can do -/

namespace Handover

variable {h h' : Handover} {a : Act} {acts : List Act}

/-- What can come of an act. -/
inductive Leads (h : Handover) : Act → Handover → Prop
  | quiet {next : Worker} (hstep : h.worker.step h.raised = some (none, next)) :
      Leads h .work { h with worker := next }
  | posts {event : Event} {next : Worker} (hlistening : h.listening = true)
      (hstep : h.worker.step h.raised = some (some event, next)) :
      Leads h .work { h with worker := next, queue := h.queue ++ [event], posted := h.posted ++ [event] }
  | loses {event : Event} {next : Worker} (hlistening : h.listening = false)
      (hstep : h.worker.step h.raised = some (some event, next)) :
      Leads h .work { h with worker := next, raised := true }
  | begins (hconsumer : h.consumer = .created) :
      Leads h .ask { h with consumer := .waiting, worker := h.worker.begin }
  | resumes (hconsumer : h.consumer = .offering) : Leads h .ask { h with consumer := .waiting }
  | hands {m : LineMatch} {rest : List Event} (hconsumer : h.consumer = .waiting)
      (hqueue : h.queue = .found m :: rest) :
      Leads h .take { h with queue := rest, consumer := .offering, handed := h.handed ++ [m] }
  | fails {e : LookError} {rest : List Event} (hconsumer : h.consumer = .waiting)
      (hqueue : h.queue = .failed e :: rest) :
      Leads h .take { h with queue := rest, consumer := .failed (.walk h.root e), raised := true }
  | finishes {rest : List Event} (hconsumer : h.consumer = .waiting) (hqueue : h.queue = .done :: rest) :
      Leads h .take { h with queue := rest, consumer := .finished, raised := true }
  | drops (hconsumer : h.consumer = .created) : Leads h .close { h with consumer := .closed }
  | closes (hconsumer : h.consumer = .waiting ∨ h.consumer = .offering) :
      Leads h .close { h with consumer := .closed, raised := true }
  | shuts (hlistening : h.listening = true) : Leads h .shut { h with listening := false }

/-- A worker that has been started and has not stopped can go on. -/
lemma work_isSome (hidle : ∀ steps, h.worker ≠ .idle steps) (hstopped : h.worker ≠ .stopped) :
    h.work.isSome = true := by
  have hisSome : (h.worker.step h.raised).isSome = true := Worker.step_isSome hidle hstopped
  obtain ⟨⟨posted, next⟩, hstep⟩ := Option.isSome_iff_exists.mp hisSome
  unfold work
  rw [hstep]
  cases posted <;> rfl

lemma leads_of_work (hwork : h.work = some h') : h.Leads .work h' := by
  unfold work at hwork
  split at hwork
  · exact nomatch hwork
  · next hstep =>
    cases hwork
    exact .quiet hstep
  · next hstep =>
    cases hwork
    unfold post
    split
    · next hlistening => exact .posts hlistening hstep
    · next hlistening => exact .loses (eq_false_of_ne_true hlistening) hstep

lemma leads_of_ask (hask : h.ask = some h') : h.Leads .ask h' := by
  unfold ask at hask
  split at hask
  · next hconsumer =>
    cases hask
    exact .begins hconsumer
  · next hconsumer =>
    cases hask
    exact .resumes hconsumer
  all_goals exact nomatch hask

lemma leads_of_take (htake : h.take = some h') : h.Leads .take h' := by
  unfold take at htake
  split at htake
  · next hconsumer =>
    split at htake
    · exact nomatch htake
    · next hqueue =>
      cases htake
      exact .hands hconsumer hqueue
    · next hqueue =>
      cases htake
      exact .fails hconsumer hqueue
    · next hqueue =>
      cases htake
      exact .finishes hconsumer hqueue
  · exact nomatch htake

lemma leads_of_close (hclose : h.close = some h') : h.Leads .close h' := by
  unfold close at hclose
  split at hclose
  · next hconsumer =>
    cases hclose
    exact .drops hconsumer
  · next hconsumer =>
    cases hclose
    exact .closes (.inl hconsumer)
  · next hconsumer =>
    cases hclose
    exact .closes (.inr hconsumer)
  all_goals exact nomatch hclose

lemma leads_of_act (hact : h.act a = some h') : h.Leads a h' := by
  cases a with
  | work => exact leads_of_work hact
  | ask => exact leads_of_ask (Option.ite_none_right_eq_some.mp hact).2
  | take => exact leads_of_take (Option.ite_none_right_eq_some.mp hact).2
  | close => exact leads_of_close (Option.ite_none_right_eq_some.mp hact).2
  | shut =>
    obtain ⟨hlistening, hshut⟩ := Option.ite_none_right_eq_some.mp hact
    cases hshut
    exact .shuts hlistening

/-- What every act keeps is kept by all acts together. -/
lemma run_keeps {P : Handover → Prop} (hkeeps : ∀ a ∈ acts, ∀ h h', P h → h.Leads a h' → P h') (hstart : P h)
    (hrun : h.run acts = some h') : P h' := by
  induction acts generalizing h with
  | nil =>
    cases hrun
    exact hstart
  | cons a rest ih =>
    obtain ⟨mid, hact, hrest⟩ := Option.bind_eq_some_iff.mp hrun
    exact ih (fun a ha => hkeeps a (List.mem_cons_of_mem _ ha))
      (hkeeps a List.mem_cons_self h mid hstart (leads_of_act hact)) hrest

/-- Acts are done one after the other. -/
lemma run_append (before behind : List Act) :
    h.run (before ++ behind) = (h.run before).bind fun mid => mid.run behind := by
  induction before generalizing h with
  | nil => rfl
  | cons a before ih =>
    show (h.act a).bind _ = ((h.act a).bind _).bind _
    cases h.act a with
    | none => rfl
    | some next => exact ih

/-! ## In order, whatever happens -/

/-- What has been handed out, what waits in the queue and what the worker goes on to find belong to all matches, in
their order. -/
structure Sound (all : List LineMatch) (h : Handover) : Prop where
  inOrder : h.handed ++ founds h.queue ++ founds (h.worker.future h.raised) <+: all
  orderly : h.worker.IsOrderly

/-- When the flag is raised less is found. -/
lemma inOrder_raised {all handed : List LineMatch} {queue : List Event} {worker : Worker} {raised : Bool}
    (h : handed ++ founds queue ++ founds (worker.future raised) <+: all) :
    handed ++ founds queue ++ founds (worker.future true) <+: all :=
  ((List.prefix_append_right_inj _).mpr (worker.founds_future_raised raised)).trans h

/-- No act disturbs the order of the matches. -/
lemma Sound.act {all : List LineMatch} (hsound : h.Sound all) (hleads : h.Leads a h') : h'.Sound all := by
  obtain ⟨hinOrder, horderly⟩ := hsound
  cases hleads with
  | quiet hstep =>
    refine ⟨?_, horderly.step hstep⟩
    rw [Worker.future_step hstep] at hinOrder
    exact hinOrder
  | posts hlistening hstep =>
    refine ⟨?_, horderly.step hstep⟩
    rw [Worker.future_step hstep] at hinOrder
    simpa only [founds_append, Option.toList_some, List.append_assoc] using hinOrder
  | loses hlistening hstep =>
    refine ⟨?_, horderly.step hstep⟩
    -- the worker posts no match behind the one that is lost
    show _ ++ founds (Worker.future true _) <+: _
    rw [Worker.founds_future_of_posted hstep, List.append_nil]
    exact (List.prefix_append _ _).trans hinOrder
  | begins hconsumer =>
    refine ⟨?_, ?_⟩
    · show _ ++ founds (h.worker.begin.future h.raised) <+: _
      rwa [Worker.future_begin]
    · show h.worker.begin.IsOrderly
      cases hworker : h.worker <;> (rw [hworker] at horderly; exact horderly)
  | resumes hconsumer => exact ⟨hinOrder, horderly⟩
  | hands hconsumer hqueue =>
    refine ⟨?_, horderly⟩
    rw [hqueue] at hinOrder
    simpa [founds] using hinOrder
  | fails hconsumer hqueue =>
    rw [hqueue] at hinOrder
    exact ⟨inOrder_raised hinOrder, horderly⟩
  | finishes hconsumer hqueue =>
    rw [hqueue] at hinOrder
    exact ⟨inOrder_raised hinOrder, horderly⟩
  | drops hconsumer => exact ⟨hinOrder, horderly⟩
  | closes hconsumer => exact ⟨inOrder_raised hinOrder, horderly⟩
  | shuts hlistening => exact ⟨hinOrder, horderly⟩

variable {fs : FileSystem} {cwd root : Path} {test : Text → Bool}

/-- At the start all matches are still to be found. -/
lemma sound_start (fs : FileSystem) (cwd root : Path) (test : Text → Bool) :
    (start fs cwd root test).Sound (whole fs cwd root test).found := by
  refine ⟨?_, isOrderly_steps fs cwd root test⟩
  show founds (eventsOf (steps fs cwd root test)) <+: _
  rw [founds_eventsOf, whole, (ofSteps_none _).1]

/-- The order of the matches is kept in all that can happen. -/
lemma Sound.run {all : List LineMatch} (hsound : h.Sound all) (hrun : h.run acts = some h') : h'.Sound all :=
  run_keeps (fun _ _ _ _ => Sound.act) hsound hrun

/-! ## Without loss, if nothing is closed -/

/-- How far a handover has come while nobody has closed it.  All that the walk leads to has been handed out, waits in
the queue, or is still to be posted. -/
inductive Stage (root : Path) (events : List Event) (h : Handover) : Prop
  | fresh {steps : List Step} (hconsumer : h.consumer = .created) (hworker : h.worker = .idle steps)
      (hraised : h.raised = false) (hevents : h.handed.map .found ++ h.queue ++ eventsOf steps = events)
  | going (hconsumer : h.consumer = .waiting ∨ h.consumer = .offering) (hworker : ∀ steps, h.worker ≠ .idle steps)
      (hraised : h.raised = false) (hevents : h.handed.map .found ++ h.queue ++ h.worker.future false = events)
  | finished (hconsumer : h.consumer = .finished) (hevents : h.handed.map .found ++ [.done] <+: events)
  | failed {e : LookError} (hconsumer : h.consumer = .failed (.walk root e))
      (hevents : h.handed.map .found ++ [.failed e] <+: events)

/-- A handover that nobody has closed, and that somebody listens to. -/
structure Undisturbed (root : Path) (events : List Event) (h : Handover) : Prop where
  isBelow : h.root = root
  listening : h.listening = true
  stage : h.Stage root events

/-- A step of the worker does not change what comes of a handover. -/
lemma Stage.work {root : Path} {events : List Event} {posted : Option Event} {next : Worker}
    (hstage : h.Stage root events) (hstep : h.worker.step h.raised = some (posted, next)) (all : List Event) :
    Stage root events { h with worker := next, queue := h.queue ++ posted.toList, posted := all } := by
  cases hstage with
  | fresh hconsumer hworker hraised hevents =>
    rw [hworker] at hstep
    exact nomatch hstep
  | going hconsumer hworker hraised hevents =>
    rw [hraised] at hstep
    refine .going hconsumer (Worker.ne_idle_of_step hstep) hraised ?_
    rw [Worker.future_step hstep] at hevents
    simpa using hevents
  | finished hconsumer hevents => exact .finished hconsumer hevents
  | failed hconsumer hevents => exact .failed hconsumer hevents

/-- While nothing has been asked for, the worker has not begun. -/
lemma Stage.of_created {events : List Event} (hstage : h.Stage root events) (hconsumer : h.consumer = .created) :
    ∃ steps, h.worker = .idle steps ∧ h.raised = false ∧
      h.handed.map .found ++ h.queue ++ eventsOf steps = events := by
  cases hstage with
  | fresh _ hworker hraised hevents => exact ⟨_, hworker, hraised, hevents⟩
  | going hother => simp [hconsumer] at hother
  | finished hother => simp [hconsumer] at hother
  | failed hother => simp [hconsumer] at hother

/-- While events are waited for, the worker has begun and the flag is not raised. -/
lemma Stage.of_going {events : List Event} (hstage : h.Stage root events)
    (hconsumer : h.consumer = .waiting ∨ h.consumer = .offering) :
    (∀ steps, h.worker ≠ .idle steps) ∧ h.raised = false ∧
      h.handed.map .found ++ h.queue ++ h.worker.future false = events := by
  cases hstage with
  | fresh hother => simp [hother] at hconsumer
  | going _ hworker hraised hevents => exact ⟨hworker, hraised, hevents⟩
  | finished hother => simp [hother] at hconsumer
  | failed hother => simp [hother] at hconsumer

/-- Nothing is lost in an act that does not close anything. -/
lemma Undisturbed.act {events : List Event} (hundisturbed : h.Undisturbed root events) (hleads : h.Leads a h')
    (hclose : a ≠ .close) (hshut : a ≠ .shut) : h'.Undisturbed root events := by
  obtain ⟨hroot, hlistening, hstage⟩ := hundisturbed
  cases hleads with
  | quiet hstep =>
    have hnext := hstage.work hstep h.posted
    rw [Option.toList_none, List.append_nil] at hnext
    exact ⟨hroot, hlistening, hnext⟩
  | posts _ hstep => exact ⟨hroot, hlistening, hstage.work hstep _⟩
  | loses hdeaf hstep => exact nomatch hlistening.symm.trans hdeaf
  | begins hconsumer =>
    obtain ⟨steps, hworker, hraised, hevents⟩ := hstage.of_created hconsumer
    have hbegin : h.worker.begin = .walking steps := by
      rw [hworker]
      rfl
    refine ⟨hroot, hlistening, .going (.inl rfl) ?_ hraised ?_⟩
    · show ∀ steps', h.worker.begin ≠ .idle steps'
      rw [hbegin]
      exact nofun
    · show _ ++ h.queue ++ h.worker.begin.future false = events
      rw [hbegin]
      exact hevents
  | resumes hconsumer =>
    obtain ⟨hworker, hraised, hevents⟩ := hstage.of_going (.inr hconsumer)
    exact ⟨hroot, hlistening, .going (.inl rfl) hworker hraised hevents⟩
  | hands hconsumer hqueue =>
    obtain ⟨hworker, hraised, hevents⟩ := hstage.of_going (.inl hconsumer)
    rw [hqueue] at hevents
    exact ⟨hroot, hlistening, .going (.inr rfl) hworker hraised (by simpa using hevents)⟩
  | fails hconsumer hqueue =>
    obtain ⟨-, -, hevents⟩ := hstage.of_going (.inl hconsumer)
    rw [hqueue] at hevents
    exact ⟨hroot, hlistening, .failed (by rw [hroot]) (by simp [← hevents])⟩
  | finishes hconsumer hqueue =>
    obtain ⟨-, -, hevents⟩ := hstage.of_going (.inl hconsumer)
    rw [hqueue] at hevents
    exact ⟨hroot, hlistening, .finished rfl (by simp [← hevents])⟩
  | drops hconsumer => exact absurd rfl hclose
  | closes hconsumer => exact absurd rfl hclose
  | shuts _ => exact absurd rfl hshut

/-- At the start nothing has been lost. -/
lemma undisturbed_start (fs : FileSystem) (cwd root : Path) (test : Text → Bool) :
    (start fs cwd root test).Undisturbed root (eventsOf (steps fs cwd root test)) :=
  ⟨rfl, rfl, .fresh rfl rfl rfl rfl⟩

/-- Nothing is lost as long as nothing is closed. -/
lemma Undisturbed.run {events : List Event} (hundisturbed : h.Undisturbed root events) (hclose : .close ∉ acts)
    (hshut : .shut ∉ acts) (hrun : h.run acts = some h') : h'.Undisturbed root events :=
  run_keeps (fun _ ha _ _ hmid hleads => hmid.act hleads (fun h => hclose (h ▸ ha)) (fun h => hshut (h ▸ ha)))
    hundisturbed hrun

/-- A consumer that has not come to an end can be asked for something, or take an event, or the worker can go on. -/
lemma Undisturbed.canGoOn {steps : List Step} (hundisturbed : h.Undisturbed root (eventsOf steps))
    (hconsumer : h.consumer = .created ∨ h.consumer = .waiting ∨ h.consumer = .offering) :
    ∃ a ∈ [Act.work, .ask, .take], (h.act a).isSome = true := by
  obtain ⟨-, hlistening, hstage⟩ := hundisturbed
  rcases hconsumer with hcreated | hwaiting | hoffering
  · exact ⟨.ask, by simp, by simp [Handover.act, ask, hlistening, hcreated]⟩
  · cases hqueue : h.queue with
    | cons event rest =>
      refine ⟨.take, by simp, ?_⟩
      cases event <;> simp [Handover.act, take, hlistening, hwaiting, hqueue]
    | nil =>
      obtain ⟨hidle, -, hevents⟩ := hstage.of_going (.inl hwaiting)
      -- the worker has yet to say that it is done
      have hdone : Event.done ∈ h.worker.future false := by
        have hmem := done_mem_eventsOf steps
        rw [← hevents, hqueue] at hmem
        simpa using hmem
      have hstopped : h.worker ≠ .stopped := by
        intro hstopped
        rw [hstopped] at hdone
        exact absurd hdone List.not_mem_nil
      exact ⟨.work, by simp, work_isSome hidle hstopped⟩
  · exact ⟨.ask, by simp, by simp [Handover.act, ask, hlistening, hoffering]⟩

/-- A consumer that comes to its end has handed out all matches, and ends as the walk does. -/
lemma Undisturbed.ends {fs : FileSystem} {cwd : Path} {test : Text → Bool}
    (hundisturbed : h.Undisturbed root (eventsOf (steps fs cwd root test))) :
    (h.consumer = .created ∨ h.consumer = .waiting ∨ h.consumer = .offering) ∨
      h.handed = (whole fs cwd root test).found ∧
        (h.consumer = .finished ∧ (whole fs cwd root test).error = none ∨
          ∃ e, h.consumer = .failed (.walk root e) ∧ (whole fs cwd root test).error = some e) := by
  obtain ⟨hfound, herror⟩ := ofSteps_none (steps fs cwd root test)
  obtain ⟨-, -, hstage⟩ := hundisturbed
  cases hstage with
  | fresh hconsumer => exact .inl (.inl hconsumer)
  | going hconsumer => exact .inl (.inr hconsumer)
  | finished hconsumer hevents =>
    obtain ⟨hhanded, hend⟩ := eq_of_prefix_eventsOf (by simp) hevents
    refine .inr ⟨hhanded.trans hfound.symm, .inl ⟨hconsumer, herror.trans ?_⟩⟩
    unfold endEvent at hend
    split at hend
    · exact nomatch hend
    · assumption
  | @failed e hconsumer hevents =>
    obtain ⟨hhanded, hend⟩ := eq_of_prefix_eventsOf (by simp) hevents
    refine .inr ⟨hhanded.trans hfound.symm, .inr ⟨e, hconsumer, herror.trans ?_⟩⟩
    unfold endEvent at hend
    split at hend
    · next hfails => rw [hfails, Event.failed.inj hend]
    · exact nomatch hend

/-- Left alone until nothing more is possible, a consumer has handed out what a scan by walking hands out, and has
ended as that does. -/
theorem eq_drain (hclose : .close ∉ acts) (hshut : .shut ∉ acts) (hrun : (start fs cwd root test).run acts = some h)
    (hended : ∀ a ∈ [Act.work, .ask, .take], h.act a = none) :
    h.handed = (Feed.drain (Counterpart.Scan.walk (.start fs cwd root test))).1 ∧
      h.consumer.reply? = some (Feed.drain (Counterpart.Scan.walk (.start fs cwd root test))).2.reply := by
  obtain ⟨hvalues, hreply⟩ := drain_eq_whole fs cwd root test
  have hundisturbed := (undisturbed_start fs cwd root test).run hclose hshut hrun
  rcases hundisturbed.ends with hgoing | ⟨hhanded, hend⟩
  · obtain ⟨a, ha, hact⟩ := hundisturbed.canGoOn hgoing
    rw [hended a ha] at hact
    exact nomatch hact
  · refine ⟨hhanded.trans hvalues.symm, ?_⟩
    rw [hreply]
    unfold Outcome.ending
    rcases hend with ⟨hconsumer, herror⟩ | ⟨e, hconsumer, herror⟩
    · rw [hconsumer, herror]
      rfl
    · rw [hconsumer, herror]
      rfl

end Handover

end Counterpart.Walk
