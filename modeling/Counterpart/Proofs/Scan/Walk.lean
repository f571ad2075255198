import Counterpart.Proofs.FileSystem.Tree
import Counterpart.Proofs.Scan.Drain

/-!
# What a walk finds

* `drain_walk`: a walk hands out the matches of its steps, up to the first step that fails;
* `ofSteps_none`: so does a walk that is run as a whole and that nobody stops;
* `mem_matchesIn` and `failed_notMem_fileSteps`: what is found in a file, and that no step through a file fails
  at which no look is refused;
* `drain_start`: a walk hands out what is found in the files of the tree, one after the other.
-/

namespace Counterpart.Walk

/-! ## Steps -/

namespace Step

/-- The match that a step has found. -/
def match? : Step → Option LineMatch
  | .found m => some m
  | _ => none

/-- What a step has failed on. -/
def error? : Step → Option LookError
  | .failed e => some e
  | _ => none

end Step

/-- The matches that come of some steps: those before the first failure. -/
def matchesOf : List Step → List LineMatch
  | [] => []
  | .found m :: rest => m :: matchesOf rest
  | .failed _ :: _ => []
  | _ :: rest => matchesOf rest

/-- How a walk below a directory ends that does some steps. -/
def endOf (root : Path) (steps : List Step) : Reply LineMatch :=
  match steps.findSome? Step.error? with
  | some e => .failed (.walk root e)
  | none => .finished

/-- What has been noted before makes no difference to what the walk comes to. -/
lemma pull_notes (root : Path) (notes : Journal) (steps : List Step) :
    (Scan.pull root notes steps).reply = (Scan.pull root [] steps).reply ∧
      (Scan.pull root notes steps).state = (Scan.pull root [] steps).state := by
  induction steps generalizing notes with
  | nil => exact ⟨rfl, rfl⟩
  | cons step rest ih =>
    cases step with
    | askPlace => exact ih notes
    | askLines => exact ih notes
    | found m => exact ⟨rfl, rfl⟩
    | failed e => exact ⟨rfl, rfl⟩
    | note n =>
      -- both walks have one note more, before different ones
      obtain ⟨hreply, hstate⟩ := ih (n :: notes)
      obtain ⟨hreply', hstate'⟩ := ih [n]
      exact ⟨hreply.trans hreply'.symm, hstate.trans hstate'.symm⟩

/-- A step that neither finds nor fails makes no difference. -/
lemma drain_quiet (root : Path) (step : Step) (rest : List Step)
    (h : ∃ notes, Scan.pull root [] (step :: rest) = Scan.pull root notes rest) :
    (Feed.drain (Counterpart.Scan.walk ⟨root, step :: rest⟩)).1
        = (Feed.drain (Counterpart.Scan.walk ⟨root, rest⟩)).1 ∧
      (Feed.drain (Counterpart.Scan.walk ⟨root, step :: rest⟩)).2.reply
        = (Feed.drain (Counterpart.Scan.walk ⟨root, rest⟩)).2.reply := by
  obtain ⟨notes, hpull⟩ := h
  obtain ⟨hreply, hstate⟩ := pull_notes root notes rest
  have hnext : (Feed.next (Counterpart.Scan.walk ⟨root, step :: rest⟩)).reply
      = (Feed.next (Counterpart.Scan.walk ⟨root, rest⟩)).reply := by
    show (Scan.pull root [] (step :: rest)).reply = _
    rw [hpull, hreply]
    rfl
  have hleft : (Feed.next (Counterpart.Scan.walk ⟨root, step :: rest⟩)).state
      = (Feed.next (Counterpart.Scan.walk ⟨root, rest⟩)).state := by
    show Counterpart.Scan.walk (Scan.pull root [] (step :: rest)).state = _
    rw [hpull, hstate]
    rfl
  obtain ⟨hvalues, hend, -⟩ := Feed.drain_congr hnext hleft
  exact ⟨hvalues, hend⟩

/-- A walk hands out the matches of its steps, up to the first step that fails. -/
lemma drain_walk (root : Path) (steps : List Step) :
    (Feed.drain (Counterpart.Scan.walk ⟨root, steps⟩)).1 = matchesOf steps ∧
      (Feed.drain (Counterpart.Scan.walk ⟨root, steps⟩)).2.reply = endOf root steps := by
  induction steps with
  | nil =>
    have hnone : ∀ m, (Feed.next (Counterpart.Scan.walk ⟨root, []⟩)).reply ≠ .value m := fun _ h => nomatch h
    rw [Feed.drain_of_no_value hnone]
    exact ⟨rfl, rfl⟩
  | cons step rest ih =>
    cases step with
    | askPlace =>
      obtain ⟨hvalues, hend⟩ := drain_quiet root .askPlace rest ⟨[], rfl⟩
      exact ⟨hvalues.trans ih.1, hend.trans ih.2⟩
    | askLines =>
      obtain ⟨hvalues, hend⟩ := drain_quiet root .askLines rest ⟨[], rfl⟩
      exact ⟨hvalues.trans ih.1, hend.trans ih.2⟩
    | note n =>
      obtain ⟨hvalues, hend⟩ := drain_quiet root (.note n) rest ⟨[n], rfl⟩
      exact ⟨hvalues.trans ih.1, hend.trans ih.2⟩
    | found m =>
      have hnext : (Feed.next (Counterpart.Scan.walk ⟨root, .found m :: rest⟩)).reply = .value m := rfl
      rw [Feed.drain_of_value hnext]
      exact ⟨congrArg (m :: ·) ih.1, ih.2⟩
    | failed e =>
      have hnone : ∀ m, (Feed.next (Counterpart.Scan.walk ⟨root, .failed e :: rest⟩)).reply ≠ .value m :=
        fun _ h => nomatch h
      rw [Feed.drain_of_no_value hnone]
      exact ⟨rfl, rfl⟩

/-- A walk that nobody stops finds the matches of its steps, and ends at the first step that fails. -/
lemma ofSteps_none (steps : List Step) :
    (Outcome.ofSteps none steps).found = matchesOf steps ∧
      (Outcome.ofSteps none steps).error = steps.findSome? Step.error? := by
  induction steps with
  | nil => exact ⟨rfl, rfl⟩
  | cons step rest ih =>
    cases step with
    | askPlace => exact ih
    | askLines => exact ih
    | note n => exact ih
    | found m => exact ⟨congrArg (m :: ·) ih.1, ih.2⟩
    | failed e => exact ⟨rfl, rfl⟩

/-- A walk that nobody stops. -/
def whole (fs : FileSystem) (cwd root : Path) (test : Text → Bool) : Outcome :=
  Outcome.ofSteps none (steps fs cwd root test)

/-- How a scan ends whose walk is of some outcome. -/
def Outcome.ending (root : Path) (outcome : Outcome) : Reply LineMatch :=
  match outcome.error with
  | some e => .failed (.walk root e)
  | none => .finished

/-- A scan by walking hands out what the walk finds, and ends as the walk does. -/
lemma drain_eq_whole (fs : FileSystem) (cwd root : Path) (test : Text → Bool) :
    (Feed.drain (Counterpart.Scan.walk (.start fs cwd root test))).1 = (whole fs cwd root test).found ∧
      (Feed.drain (Counterpart.Scan.walk (.start fs cwd root test))).2.reply
        = (whole fs cwd root test).ending root := by
  obtain ⟨hvalues, hend⟩ := drain_walk root (steps fs cwd root test)
  obtain ⟨hfound, herror⟩ := ofSteps_none (steps fs cwd root test)
  refine ⟨hvalues.trans hfound.symm, hend.trans ?_⟩
  unfold endOf Outcome.ending whole
  rw [herror]

/-! ## Steps that do not fail -/

/-- Behind steps without a failure the walk goes on. -/
lemma matchesOf_append {steps : List Step} (h : ∀ e, Step.failed e ∉ steps) (rest : List Step) :
    matchesOf (steps ++ rest) = steps.filterMap Step.match? ++ matchesOf rest := by
  induction steps with
  | nil => rfl
  | cons step steps ih =>
    have hsteps := ih fun e he => h e (List.mem_cons_of_mem step he)
    cases step with
    | found m => exact congrArg (m :: ·) hsteps
    | failed e => exact absurd List.mem_cons_self (h e)
    | askPlace => exact hsteps
    | askLines => exact hsteps
    | note n => exact hsteps

/-- Without a failure all matches of the steps are found. -/
lemma matchesOf_eq {steps : List Step} (h : ∀ e, Step.failed e ∉ steps) :
    matchesOf steps = steps.filterMap Step.match? := by
  have happend := matchesOf_append h []
  rwa [List.append_nil, show matchesOf [] = [] from rfl, List.append_nil] at happend

/-- Whatever a walk hands out, one of its steps has found. -/
lemma mem_filterMap_of_mem_matchesOf {steps : List Step} {m : LineMatch} (h : m ∈ matchesOf steps) :
    m ∈ steps.filterMap Step.match? := by
  induction steps with
  | nil => exact absurd h List.not_mem_nil
  | cons step rest ih =>
    cases step with
    | found m' =>
      rcases List.mem_cons.mp h with rfl | h
      · exact List.mem_cons_self
      · exact List.mem_cons_of_mem m' (ih h)
    | failed e => exact absurd h List.not_mem_nil
    | askPlace => exact ih h
    | askLines => exact ih h
    | note n => exact ih h

lemma findSome?_error?_eq_none {steps : List Step} (h : ∀ e, Step.failed e ∉ steps) :
    steps.findSome? Step.error? = none := by
  rw [List.findSome?_eq_none_iff]
  intro step hstep
  cases step with
  | failed e => exact absurd hstep (h e)
  | found m => rfl
  | askPlace => rfl
  | askLines => rfl
  | note n => rfl

/-- Without a failure a walk ends by itself. -/
lemma endOf_eq (root : Path) {steps : List Step} (h : ∀ e, Step.failed e ∉ steps) :
    endOf root steps = .finished := by
  rw [endOf, findSome?_error?_eq_none h]

/-! ## Files -/

variable {fs : FileSystem} {cwd : Path} {test : Text → Bool} {file : Path}

/-- What is found in a file. -/
def matchesIn (fs : FileSystem) (cwd : Path) (test : Text → Bool) (file : Path) : List LineMatch :=
  (fileSteps fs cwd test file).filterMap Step.match?

/-- A line of a file leads to a match of what it says without its line end. -/
lemma mem_linesSteps {step : Step} {lines : List Bytes} (h : step ∈ linesSteps test file lines) :
    step = .askLines ∨
      ∃ line ∈ lines, test (lineText line) = true ∧ step = .found ⟨file, lineText line⟩ := by
  obtain ⟨⟨line, index⟩, hline, hstep⟩ := List.mem_flatMap.mp h
  rcases List.mem_append.mp hstep with hstep | hstep
  · split at hstep
    · exact .inl (List.mem_singleton.mp hstep)
    · exact absurd hstep List.not_mem_nil
  · unfold lineStep at hstep
    dsimp only at hstep
    split at hstep
    · next hfound =>
      exact .inr ⟨line, List.fst_mem_of_mem_zipIdx hline, hfound, List.mem_singleton.mp hstep⟩
    · exact absurd hstep List.not_mem_nil

/-- A line that passes the test is found. -/
lemma found_mem_linesSteps {line : Bytes} {lines : List Bytes} (hline : line ∈ lines)
    (h : test (lineText line) = true) :
    Step.found ⟨file, lineText line⟩ ∈ linesSteps test file lines := by
  obtain ⟨index, hlt, hget⟩ := List.mem_iff_getElem.mp hline
  refine List.mem_flatMap.mpr ⟨(line, index), ?_, List.mem_append_right _ ?_⟩
  · rw [List.mem_zipIdx_iff_getElem?, List.getElem?_eq_getElem hlt, hget]
  · unfold lineStep
    dsimp only
    rw [if_pos h]
    exact List.mem_cons_self

/-- What is found in a file: lines of what can be read and is not binary. -/
lemma mem_matchesIn {m : LineMatch} :
    m ∈ matchesIn fs cwd test file ↔
      fs.isFile cwd file = .ok true ∧ ∃ data, fs.read cwd file = .ok data ∧ isBinary data = false ∧
        ∃ line ∈ data.lines, test (lineText line) = true ∧ m = ⟨file, lineText line⟩ := by
  unfold matchesIn fileSteps
  rw [List.mem_filterMap]
  constructor
  · intro ⟨step, hstep, hmatch⟩
    -- of all steps only those that have found something give a match
    obtain rfl : step = .found m := by
      cases step <;> simp_all [Step.match?]
    rw [List.mem_cons] at hstep
    rcases hstep with h | hstep
    · exact absurd h (by simp)
    · split at hstep
      · exact absurd hstep (by simp)
      · exact absurd hstep List.not_mem_nil
      · next hfile =>
        split at hstep
        · exact absurd hstep (by simp)
        · next data hread =>
          split at hstep
          · exact absurd hstep List.not_mem_nil
          · next hbinary =>
            refine ⟨hfile, data, hread, eq_false_of_ne_true hbinary, ?_⟩
            rcases mem_linesSteps hstep with h | ⟨line, hline, hfound, heq⟩
            · exact absurd h (by simp)
            · exact ⟨line, hline, hfound, Step.found.inj heq⟩
  · intro ⟨hfile, data, hread, hbinary, line, hline, hfound, hm⟩
    refine ⟨.found m, ?_, rfl⟩
    rw [hfile, hm]
    dsimp only
    rw [hread]
    dsimp only
    rw [hbinary, if_neg Bool.false_ne_true]
    exact List.mem_cons_of_mem _ (found_mem_linesSteps hline hfound)

/-- A step through a file fails only if it cannot be told whether it is one. -/
lemma isFile_of_failed_mem {e : LookError} (hmem : Step.failed e ∈ fileSteps fs cwd test file) :
    fs.isFile cwd file = .error e := by
  unfold fileSteps at hmem
  rw [List.mem_cons] at hmem
  rcases hmem with hmem | hmem
  · exact absurd hmem (by simp)
  · split at hmem
    · next e' hfile => rw [hfile, Step.failed.inj (List.mem_singleton.mp hmem)]
    · exact absurd hmem List.not_mem_nil
    · split at hmem
      · exact absurd hmem (by simp)
      · split at hmem
        · exact absurd hmem List.not_mem_nil
        · rcases mem_linesSteps hmem with h | ⟨_, _, _, h⟩
          · exact absurd h (by simp)
          · exact absurd h (by simp)

/-- No step through a file fails at which no look is refused. -/
lemma failed_notMem_fileSteps (h : ¬ fs.IsRefused cwd file) (e : LookError) :
    Step.failed e ∉ fileSteps fs cwd test file := by
  intro hmem
  obtain ⟨b, hfile⟩ : ∃ b, fs.isFile cwd file = .ok b := FileSystem.leadsTo_eq_ok h _
  exact nomatch hfile.symm.trans (isFile_of_failed_mem hmem)

/-! ## Trees -/

/-- The files below a directory, in the order of a walk: those of the directory itself first, then those of the
directories in it, one after the other. -/
def walkedFiles (fs : FileSystem) (cwd dir : Path) : List Path :=
  (fs.tree cwd dir).flatMap fun place => place.2.map place.1.child

/-- A walk only comes to files below its root. -/
lemma exists_components_of_mem_walkedFiles {dir : Path} (h : file ∈ walkedFiles fs cwd dir) :
    ∃ cs, cs ≠ [] ∧ file = { dir with components := dir.components ++ cs } := by
  obtain ⟨place, hplace, hname⟩ := List.mem_flatMap.mp h
  obtain ⟨name, -, rfl⟩ := List.mem_map.mp hname
  obtain ⟨cs, hcs⟩ := FileSystem.exists_components_of_mem_treeTo hplace
  exact ⟨cs ++ [name], by simp, by rw [hcs, Path.child, List.append_assoc]⟩

/-- A walk comes to no file at which a look is refused. -/
def MeetsNoRefusal (fs : FileSystem) (cwd dir : Path) : Prop := ∀ file ∈ walkedFiles fs cwd dir, ¬ fs.IsRefused cwd file

/-- In a file system without refusals no walk meets one. -/
lemma meetsNoRefusal (h : fs.RefusesNoLook) (cwd dir : Path) : MeetsNoRefusal fs cwd dir :=
  fun file _ => FileSystem.not_isRefused h cwd file

/-- A walk goes through the directories below its root, each with its files. -/
lemma steps_of_ne_nul {root : Path} (h : fs.list cwd root ≠ .error .nul) :
    steps fs cwd root test
      = (fs.tree cwd root).flatMap fun place => directorySteps fs cwd test place.1 place.2 := by
  unfold steps
  split
  · next hnul => exact absurd hnul h
  · rfl

lemma steps_eq {root : Path} (hcwd : cwd.IsNulFree) (hroot : root.IsNulFree) :
    steps fs cwd root test
      = (fs.tree cwd root).flatMap fun place => directorySteps fs cwd test place.1 place.2 :=
  steps_of_ne_nul (FileSystem.list_ne_nul hcwd hroot)

/-- The matches of the steps of a walk are those in its files. -/
lemma filterMap_steps {root : Path} (hcwd : cwd.IsNulFree) (hroot : root.IsNulFree) :
    (steps fs cwd root test).filterMap Step.match?
      = (walkedFiles fs cwd root).flatMap (matchesIn fs cwd test) := by
  rw [steps_eq hcwd hroot, List.filterMap_flatMap, walkedFiles, List.flatMap_assoc]
  refine List.flatMap_congr fun place _ => ?_
  unfold directorySteps
  rw [List.filterMap_cons_none rfl, List.filterMap_flatMap, List.flatMap_map]
  rfl

/-- A walk that meets no refusal has no step that fails. -/
lemma failed_notMem_steps {root : Path} (h : MeetsNoRefusal fs cwd root) (hcwd : cwd.IsNulFree)
    (hroot : root.IsNulFree) (e : LookError) : Step.failed e ∉ steps fs cwd root test := by
  rw [steps_eq hcwd hroot]
  intro hmem
  obtain ⟨place, hplace, hmem⟩ := List.mem_flatMap.mp hmem
  rcases List.mem_cons.mp hmem with hmem | hmem
  · exact absurd hmem (by simp)
  · obtain ⟨file, hfile, hmem⟩ := List.mem_flatMap.mp hmem
    have hwalked : place.1.child file ∈ walkedFiles fs cwd root :=
      List.mem_flatMap.mpr ⟨place, hplace, List.mem_map_of_mem hfile⟩
    exact failed_notMem_fileSteps (h _ hwalked) e hmem

/-- Where no look at a file is refused, a walk hands out what is found in the files of the tree, one after the other,
and comes to its end. -/
theorem drain_start {root : Path} (test : Text → Bool) (h : MeetsNoRefusal fs cwd root) (hcwd : cwd.IsNulFree)
    (hroot : root.IsNulFree) :
    (Feed.drain (Counterpart.Scan.walk (.start fs cwd root test))).1
        = (walkedFiles fs cwd root).flatMap (matchesIn fs cwd test) ∧
      (Feed.drain (Counterpart.Scan.walk (.start fs cwd root test))).2.reply = .finished := by
  obtain ⟨hvalues, hend⟩ := drain_walk root (steps fs cwd root test)
  have hfails : ∀ e, Step.failed e ∉ steps fs cwd root test := failed_notMem_steps h hcwd hroot
  refine ⟨hvalues.trans ?_, hend.trans (endOf_eq root hfails)⟩
  rw [matchesOf_eq hfails, filterMap_steps hcwd hroot]

end Counterpart.Walk
