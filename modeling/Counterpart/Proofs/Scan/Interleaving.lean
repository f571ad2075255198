import Counterpart.Proofs.Scan.Consumer

/-!
# What comes of a walk beside its consumer

Whatever the order in which worker and consumer do what they do, the consumer hands out what the walk finds, in order,
without loss and without repetition; and a worker that the flag is raised for posts one event more at most before it
says that it is done.

* `Handover.load_act`: every act brings a handover nearer to its end;
* `Handover.Late`: what is kept once the flag is raised;
* `handover_isFaithful`: what holds after any course of events.
-/

namespace Counterpart.Walk

namespace Handover

/-! ## Nothing goes on for ever -/

/-- A bound on the acts that are still possible. -/
def load (h : Handover) : Nat :=
  h.worker.load + 2 * h.queue.length
    + (match h.consumer with
      | .created | .offering => 2
      | .waiting => 1
      | .finished | .failed _ | .closed => 0)
    + if h.listening then 1 else 0

lemma load_act {h h' : Handover} {a : Act} (hleads : h.Leads a h') : h'.load < h.load := by
  unfold load
  cases hleads with
  | quiet hstep =>
    have hless := Worker.load_step hstep
    simp at hless ⊢
    omega
  | posts hlistening hstep =>
    have hless := Worker.load_step hstep
    simp at hless ⊢
    omega
  | loses hlistening hstep =>
    have hless := Worker.load_step hstep
    simp at hless ⊢
    omega
  | begins hconsumer =>
    have hbegin : h.worker.begin.load = h.worker.load := by cases h.worker <;> rfl
    simp [hconsumer, hbegin]
  | resumes hconsumer => simp [hconsumer]
  | hands hconsumer hqueue =>
    simp only [hconsumer, hqueue, List.length_cons]
    omega
  | fails hconsumer hqueue =>
    simp only [hconsumer, hqueue, List.length_cons]
    omega
  | finishes hconsumer hqueue =>
    simp only [hconsumer, hqueue, List.length_cons]
    omega
  | drops hconsumer => simp [hconsumer]
  | closes hconsumer => rcases hconsumer with hconsumer | hconsumer <;> simp [hconsumer]
  | shuts hlistening => simp [hlistening]

lemma length_le_load {h h' : Handover} {acts : List Act} (hrun : h.run acts = some h') : acts.length ≤ h.load := by
  induction acts generalizing h with
  | nil => exact Nat.zero_le _
  | cons a rest ih =>
    obtain ⟨mid, hact, hrest⟩ := Option.bind_eq_some_iff.mp hrun
    have hless := load_act (leads_of_act hact)
    have hmore := ih hrest
    rw [List.length_cons]
    omega

/-! ## Once the flag is raised -/

/-- What a handover has come to since its flag was raised: the worker has posted a part of what it then had left, and
has the rest still to post unless nobody listens any more. -/
structure Late (mid h : Handover) : Prop where
  raised : h.raised = true
  posted : ∃ more rest, h.posted = mid.posted ++ more ∧ mid.worker.future true = more ++ rest ∧
    (h.listening = true → h.worker.future true = rest)

lemma Late.act {mid h h' : Handover} {a : Act} (hlate : Late mid h) (hleads : h.Leads a h') : Late mid h' := by
  obtain ⟨hraised, more, rest, hposted, hfuture, hrest⟩ := hlate
  cases hleads with
  | quiet hstep =>
    rw [hraised] at hstep
    rw [Worker.future_step hstep] at hrest
    exact ⟨hraised, more, rest, hposted, hfuture, hrest⟩
  | @posts event next hlistening hstep =>
    rw [hraised] at hstep
    have hnext := hrest hlistening
    rw [Worker.future_step hstep] at hnext
    refine ⟨hraised, more ++ [event], next.future true, ?_, ?_, fun _ => rfl⟩
    · rw [hposted, List.append_assoc]
    · rw [hfuture, ← hnext, List.append_assoc]
      rfl
  | loses hdeaf hstep =>
    exact ⟨rfl, more, rest, hposted, hfuture, fun hlistening => nomatch hdeaf.symm.trans hlistening⟩
  | begins hconsumer =>
    refine ⟨hraised, more, rest, hposted, hfuture, ?_⟩
    show h.listening = true → h.worker.begin.future true = rest
    rwa [Worker.future_begin]
  | resumes hconsumer => exact ⟨hraised, more, rest, hposted, hfuture, hrest⟩
  | hands hconsumer hqueue => exact ⟨hraised, more, rest, hposted, hfuture, hrest⟩
  | fails hconsumer hqueue => exact ⟨rfl, more, rest, hposted, hfuture, hrest⟩
  | finishes hconsumer hqueue => exact ⟨rfl, more, rest, hposted, hfuture, hrest⟩
  | drops hconsumer => exact ⟨hraised, more, rest, hposted, hfuture, hrest⟩
  | closes hconsumer => exact ⟨rfl, more, rest, hposted, hfuture, hrest⟩
  | shuts hlistening => exact ⟨hraised, more, rest, hposted, hfuture, nofun⟩

lemma Late.run {mid h : Handover} {acts : List Act} (hraised : mid.raised = true) (hrun : mid.run acts = some h) :
    Late mid h :=
  run_keeps (fun _ _ _ _ => Late.act) ⟨hraised, [], _, (List.append_nil _).symm, rfl, fun _ => rfl⟩ hrun

end Handover

/-! ## Any course of events -/

/-- A handover that some acts have led to hands out what the walk finds. -/
structure IsFaithful (fs : FileSystem) (cwd root : Path) (test : Text → Bool) (acts : List Act) (h : Handover) :
    Prop where
  /-- Nothing is lost, repeated or out of order. -/
  inOrder : h.handed <+: (whole fs cwd root test).found
  /-- If nothing is closed the consumer can go on until it has handed out everything, and ends as the walk does. -/
  complete : .close ∉ acts → .shut ∉ acts →
    (h.consumer = .created ∨ h.consumer = .waiting ∨ h.consumer = .offering) ∧
        (∃ a ∈ [Act.work, .ask, .take], (h.act a).isSome = true) ∨
      h.handed = (whole fs cwd root test).found ∧
        (h.consumer = .finished ∧ (whole fs cwd root test).error = none ∨
          ∃ e, h.consumer = .failed (.walk root e) ∧ (whole fs cwd root test).error = some e)
  /-- Nothing goes on for ever. -/
  isBrief : acts.length ≤ 5 * (steps fs cwd root test).length + 7
  /-- Since the flag was raised the worker has posted one event more at most before it has said that it is done; and
  when it has stopped it has said so, unless nobody listens any more. -/
  parting : ∀ before behind mid, acts = before ++ behind →
    (Handover.start fs cwd root test).run before = some mid → mid.raised = true →
      ∃ more, h.posted = mid.posted ++ more ∧ IsParting more ∧
        (mid.worker ≠ .stopped → h.worker = .stopped → h.listening = true → .done ∈ more)

/-- Whatever the order in which a worker and its consumer do what they do, and whenever the consumer is closed: the
matches handed out are those of the walk, in order, all of them if nobody closes the consumer, and a worker that the
flag is raised for posts one event more at most before it says that it is done. -/
theorem handover_isFaithful {fs : FileSystem} {cwd root : Path} {test : Text → Bool} {acts : List Act} {h : Handover}
    (hrun : (Handover.start fs cwd root test).run acts = some h) : IsFaithful fs cwd root test acts h where
  inOrder := by
    have hsound := (Handover.sound_start fs cwd root test).run hrun
    have hprefix := hsound.inOrder
    rw [List.append_assoc] at hprefix
    exact (List.prefix_append _ _).trans hprefix
  complete hclose hshut := by
    have hundisturbed := (Handover.undisturbed_start fs cwd root test).run hclose hshut hrun
    rcases hundisturbed.ends with hgoing | hended
    · exact .inl ⟨hgoing, hundisturbed.canGoOn hgoing⟩
    · exact .inr hended
  isBrief := Handover.length_le_load hrun
  parting before behind mid hacts hbefore hraised := by
    rw [hacts, Handover.run_append, hbefore] at hrun
    obtain ⟨-, more, rest, hposted, hfuture, hrest⟩ := Handover.Late.run hraised hrun
    have horderly := ((Handover.sound_start fs cwd root test).run hbefore).orderly
    refine ⟨more, hposted, horderly.isParting_future.of_prefix ⟨rest, hfuture.symm⟩, ?_⟩
    intro hmid hstopped hlistening
    have hnil : rest = [] := by
      rw [← hrest hlistening, hstopped]
      rfl
    have hdone := Worker.done_mem_future hmid
    rwa [hfuture, hnil, List.append_nil] at hdone

/-- A file with two lines, both of which match. -/
def twoLines : FileSystem :=
  FileSystem.empty.put (Path.ofText "/p/a.c".toList).components { entry := .file (Text.Utf8.encode "x\nx\n".toList) }

/-- A consumer that is closed when the worker has found the flag down and not yet posted its second match. -/
def closedWhilePosting : List Act :=
  [.ask, .work, .work, .work, .work, .work, .work, .take, .work, .work, .close, .work, .work, .work]

/-- The walk through this file for an `x`, beside a consumer. -/
def twoLinesHandover : Handover :=
  .start twoLines Path.root (Path.ofText "/p".toList) (Pattern.literal "x".toList).isFoundIn

/-- The second match is posted all the same, and never handed out. -/
theorem handover_closedWhilePosting :
    ∃ h, twoLinesHandover.run closedWhilePosting = some h ∧
      h.handed = [⟨Path.ofText "/p/a.c".toList, "x".toList⟩] ∧
      h.posted = [.found ⟨Path.ofText "/p/a.c".toList, "x".toList⟩, .found ⟨Path.ofText "/p/a.c".toList, "x".toList⟩,
        .done] ∧
      IsFaithful twoLines Path.root (Path.ofText "/p".toList) (Pattern.literal "x".toList).isFoundIn
        closedWhilePosting h := by
  have houtcome : (twoLinesHandover.run closedWhilePosting).map (fun h => (h.handed, h.posted))
      = some ([⟨Path.ofText "/p/a.c".toList, "x".toList⟩],
        [.found ⟨Path.ofText "/p/a.c".toList, "x".toList⟩, .found ⟨Path.ofText "/p/a.c".toList, "x".toList⟩,
          .done]) := by decide +kernel
  obtain ⟨h, hrun, hpair⟩ := Option.map_eq_some_iff.mp houtcome
  obtain ⟨hhanded, hposted⟩ := Prod.mk.inj hpair
  exact ⟨h, hrun, hhanded, hposted, handover_isFaithful hrun⟩

end Counterpart.Walk
