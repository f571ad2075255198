import Counterpart.Proofs.Scan.Polling
import Mathlib.Data.List.Infix

/-!
# A walk that is told to stop

If a walk may ask a number of times and is told to stop from then on, what happens in it is a beginning of what happens
in the walk that nobody stops, and behind that one question more or two.

* `IsCut`: what can become of a walk with a number of questions left; `isCut_course`: nothing else becomes of it;
* `IsSpaced`: how many matches may come before the next question; `isSpaced_steps`: never more than a block has lines;
* `FindsWithin`: so no beginning of a walk finds more than a block for each of its questions;
* `cancelled_isBoundedPrefix`: the walk as a whole.
-/

namespace Counterpart.Walk

/-- Answers that never stop a walk. -/
def never : Nat → Bool := fun _ => false

/-- A walk that is never stopped gets no as its answer to every question. -/
lemma never_eq (asked : Nat) : never asked = false := rfl

/-- Answers that stop a walk after `n` questions. -/
def stopAfter (n : Nat) : Nat → Bool := fun i => decide (n ≤ i)

/-- Such a walk has questions without end. -/
lemma isAllowance_never : IsAllowance never 0 none := fun i => by simp [never_eq]

/-- A walk that is stopped after some questions has as many. -/
lemma isAllowance_stopAfter (n : Nat) : IsAllowance (stopAfter n) 0 (some n) := fun i => by simp [stopAfter]

/-! ## Walks that are cut off -/

/-- What can become of a walk with some questions left: it comes to its end with them, or is cut off at the question
behind them.  A walk that is cut off among the lines of a file asks once more, if it can. -/
inductive IsCut (left : Nat) (whole run : Course) : Prop
  | uncut (h : run = whole) (hasked : whole.asked ≤ left)
  | cut {before behind : List Moment} (hbefore : before ++ [.asked false] <+: whole.moments)
      (hleft : before.countP Moment.isQuestion = left) (hmoments : run.moments = before ++ behind)
      (hbehind : behind = [.asked true] ∨ behind = [.asked true, .asked true])

namespace IsCut

variable {left : Nat} {whole run : Course}

/-- What is no question may stand in front of a walk and of what becomes of it. -/
lemma happensFirst (h : IsCut left whole run) {moment : Moment} (hquiet : moment.isQuestion = false) :
    IsCut left (whole.happensFirst moment) (run.happensFirst moment) := by
  have hcount (moments : List Moment) :
      (moment :: moments).countP Moment.isQuestion = moments.countP Moment.isQuestion :=
    List.countP_cons_of_neg (by simp [hquiet])
  cases h with
  | uncut h hasked => exact .uncut (by rw [h]) ((hcount _).trans_le hasked)
  | @cut before behind hbefore hleft hmoments hbehind =>
    have hprefix : (moment :: before) ++ [.asked false] <+: (whole.happensFirst moment).moments :=
      (List.prefix_cons_inj moment).2 hbefore
    exact .cut hprefix ((hcount before).trans hleft) (congrArg (moment :: ·) hmoments) hbehind

/-- A question in front that is answered with no uses up one of those left. -/
lemma askedFirst (h : IsCut left whole run) :
    IsCut (left + 1) (whole.happensFirst (.asked false)) (run.happensFirst (.asked false)) := by
  have hcount (moments : List Moment) :
      (.asked false :: moments).countP Moment.isQuestion = moments.countP Moment.isQuestion + 1 :=
    List.countP_cons_of_pos rfl
  cases h with
  | uncut h hasked => exact .uncut (by rw [h]) ((hcount _).trans_le (Nat.succ_le_succ hasked))
  | @cut before behind hbefore hleft hmoments hbehind =>
    have hprefix : (.asked false :: before) ++ [.asked false] <+: (whole.happensFirst (.asked false)).moments :=
      (List.prefix_cons_inj _).2 hbefore
    exact .cut hprefix ((hcount before).trans (congrArg (· + 1) hleft)) (congrArg (_ :: ·) hmoments) hbehind

/-- With no question left a walk is cut off at the first one. -/
lemma of_zero (hrun : run.moments = [.asked true] ∨ run.moments = [.asked true, .asked true]) :
    IsCut 0 (whole.happensFirst (.asked false)) run :=
  have hprefix : ([] : List Moment) ++ [.asked false] <+: (whole.happensFirst (.asked false)).moments :=
    List.prefix_append [_] _
  .cut hprefix rfl rfl hrun

end IsCut

/-- Nothing else becomes of some steps. -/
lemma isCut_play {stop : Nat → Bool} {asked left : Nat} (h : IsAllowance stop asked (some left)) (steps : List Step) :
    IsCut left (play never false steps asked) (play stop false steps asked) := by
  induction steps generalizing asked left with
  | nil => exact .uncut rfl (Nat.zero_le left)
  | cons step rest ih =>
    -- a question uses up one of those that are left, and with none left it cuts the walk off
    have hstop : stop asked = true ↔ left = 0 := h.stop_iff.trans (by simp)
    cases step with
    | askPlace =>
      rw [play_askPlace_of_go rest (never_eq asked)]
      cases left with
      | zero =>
        rw [play_askPlace_of_stop rest (hstop.2 rfl)]
        exact .of_zero (.inl rfl)
      | succ left =>
        rw [play_askPlace_of_go rest (eq_false_of_ne_true (mt hstop.1 (Nat.succ_ne_zero left)))]
        exact (ih (h.next (by simp))).askedFirst
    | askLines =>
      rw [play_askLines, play_askLines]
      cases left with
      | zero =>
        rw [hstop.2 rfl, play_givenUp_of_stop (h.next_of_zero.stop_iff.2 rfl)]
        refine .of_zero ?_
        split
        · exact .inr rfl
        · exact .inl rfl
      | succ left =>
        rw [eq_false_of_ne_true (mt hstop.1 (Nat.succ_ne_zero left))]
        exact (ih (h.next (by simp))).askedFirst
    | found m =>
      rw [play_found, play_found]
      exact (ih h).happensFirst rfl
    | note n =>
      rw [play_note, play_note]
      exact (ih h).happensFirst rfl
    | failed e =>
      rw [play_failed, play_failed]
      exact .uncut rfl (Nat.zero_le left)

/-- A walk that is stopped after some questions is the whole walk or what is cut from it. -/
lemma isCut_course (n : Nat) (fs : FileSystem) (cwd root : Path) (test : Text → Bool) :
    IsCut n (course never fs cwd root test) (course (stopAfter n) fs cwd root test) := by
  unfold course
  rw [walkPart_eq_play, walkPart_eq_play]
  exact isCut_play (isAllowance_stopAfter n) _

/-! ## What a cut leaves -/

/-- Behind a walk that was cut off nothing is found. -/
lemma found_of_cut {run : Course} {before behind : List Moment} (hmoments : run.moments = before ++ behind)
    (hbehind : behind = [.asked true] ∨ behind = [.asked true, .asked true]) :
    run.found = before.filterMap Moment.match? := by
  unfold Course.found
  rw [hmoments, List.filterMap_append]
  rcases hbehind with rfl | rfl <;> exact List.append_nil _

/-- In the walk that nobody stops no question is answered with a stop. -/
lemma asked_true_notMem_course_never (fs : FileSystem) (cwd root : Path) (test : Text → Bool) :
    .asked true ∉ (course never fs cwd root test).moments := by
  intro hmem
  have hanswer : true ∈ (course never fs cwd root test).moments.filterMap Moment.answer? :=
    List.mem_filterMap.mpr ⟨.asked true, hmem, rfl⟩
  rw [answers_course] at hanswer
  obtain ⟨i, -, hi⟩ := List.mem_map.mp hanswer
  exact absurd hi (by simp [never_eq])

namespace IsCut

variable {left more : Nat} {whole run later : Course}

/-- What a cut walk finds are the first matches of the whole one. -/
lemma found_prefix (h : IsCut left whole run) : run.found <+: whole.found := by
  cases h with
  | uncut h hasked => rw [h]
  | cut hbefore hleft hmoments hbehind =>
    rw [found_of_cut hmoments hbehind]
    exact ((List.prefix_append _ _).trans hbefore).filterMap Moment.match?

/-- A cut walk puts at most two questions more than are left. -/
lemma asked_le (h : IsCut left whole run) : run.asked ≤ left + 2 := by
  cases h with
  | uncut h hasked =>
    rw [h]
    omega
  | cut hbefore hleft hmoments hbehind =>
    unfold Course.asked
    rw [hmoments, List.countP_append, hleft]
    rcases hbehind with rfl | rfl
    · exact Nat.add_le_add_left (by decide) left
    · exact Nat.add_le_add_left (by decide) left

/-- A walk that has asked no more often than it may is not cut off. -/
lemma eq_whole (h : IsCut left whole run) (hasked : run.asked < left + 1) : run = whole := by
  cases h with
  | uncut h _ => exact h
  | cut hbefore hleft hmoments hbehind =>
    unfold Course.asked at hasked
    rw [hmoments, List.countP_append, hleft] at hasked
    rcases hbehind with rfl | rfl
    · exact absurd hasked (by simp [Moment.isQuestion])
    · exact absurd hasked (by simp [Moment.isQuestion])

/-- Nothing is found behind a question that was answered with a stop. -/
lemma pairwise (h : IsCut left whole run) (hwhole : .asked true ∉ whole.moments) :
    run.moments.Pairwise fun earlier later => earlier = .asked true → ∀ m, later ≠ .found m := by
  cases h with
  | uncut h _ =>
    rw [h]
    exact List.pairwise_of_forall_mem_list fun _ hearlier _ _ hstop => absurd (hstop ▸ hearlier) hwhole
  | @cut before behind hbefore hleft hmoments hbehind =>
    have hgo : .asked true ∉ before := fun hmem => hwhole (hbefore.mem (List.mem_append_left _ hmem))
    rw [hmoments]
    refine List.pairwise_append.mpr ⟨?_, ?_, ?_⟩
    · exact List.pairwise_of_forall_mem_list fun _ hearlier _ _ hstop => absurd (hstop ▸ hearlier) hgo
    · rcases hbehind with rfl | rfl <;> simp
    · exact fun _ hearlier _ _ hstop => absurd (hstop ▸ hearlier) hgo

/-- With more questions a walk goes on for longer. -/
lemma found_prefix_of_le (h : IsCut left whole run) (h' : IsCut more whole later) (hle : left ≤ more) :
    run.found <+: later.found := by
  cases h' with
  | uncut h' _ =>
    rw [h']
    exact h.found_prefix
  | @cut before' behind' hbefore' hmore hmoments' hbehind' =>
    have hcount' : (before' ++ [Moment.asked false]).countP Moment.isQuestion = more + 1 := by
      rw [List.countP_append, hmore]
      rfl
    cases h with
    | uncut h hasked =>
      -- the whole walk asks more often than that
      have hcount : (before' ++ [Moment.asked false]).countP Moment.isQuestion
          ≤ whole.moments.countP Moment.isQuestion := hbefore'.sublist.countP_le
      unfold Course.asked at hasked
      omega
    | @cut before behind hbefore hleft hmoments hbehind =>
      rw [found_of_cut hmoments hbehind, found_of_cut hmoments' hbehind']
      refine List.IsPrefix.filterMap Moment.match? ?_
      have hwhole : before <+: whole.moments := (List.prefix_append _ _).trans hbefore
      have hwhole' : before' <+: whole.moments := (List.prefix_append _ _).trans hbefore'
      rcases Nat.lt_or_ge before'.length before.length with hless | hge
      · -- then the question at which the longer walk was cut off would be among those of the shorter one
        have hprefix : before' ++ [.asked false] <+: before :=
          List.prefix_of_prefix_length_le hbefore' hwhole (by simpa using Nat.succ_le_of_lt hless)
        have hcount : (before' ++ [Moment.asked false]).countP Moment.isQuestion
            ≤ before.countP Moment.isQuestion := hprefix.sublist.countP_le
        omega
      · exact List.prefix_of_prefix_length_le hwhole hwhole' hge

end IsCut

/-! ## How much is found between two questions -/

/-- Before the next question no more than `room` matches are found, none at all behind the question for a place, and
behind one among the lines of a file no more than a block has lines. -/
def IsSpaced : Nat → List Step → Prop
  | _, [] => True
  | _, .askPlace :: rest => IsSpaced 0 rest
  | _, .askLines :: rest => IsSpaced blockLength rest
  | room, .found _ :: rest => 0 < room ∧ IsSpaced (room - 1) rest
  | room, .note _ :: rest => IsSpaced room rest
  | _, .failed _ :: _ => True

/-- With more room, steps are spaced all the more. -/
lemma IsSpaced.mono {steps : List Step} {room more : Nat} (h : IsSpaced room steps) (hle : room ≤ more) :
    IsSpaced more steps := by
  induction steps generalizing room more with
  | nil => exact trivial
  | cons step rest ih =>
    cases step with
    | askPlace => exact h
    | askLines => exact h
    | found m => exact ⟨Nat.lt_of_lt_of_le h.1 hle, ih h.2 (Nat.sub_le_sub_right hle 1)⟩
    | note n => exact ih h hle
    | failed e => exact trivial

variable {fs : FileSystem} {cwd : Path} {test : Text → Bool} {rest : List Step}

/-- A line finds one match at most. -/
lemma isSpaced_lineStep {room : Nat} (h : IsSpaced room rest) (file : Path) (line : Bytes) :
    IsSpaced (room + 1) (lineStep test file line ++ rest) := by
  unfold lineStep
  dsimp only
  split
  · exact ⟨Nat.succ_pos room, h⟩
  · exact h.mono (Nat.le_succ room)

/-- A question comes before every line whose number is a multiple of the length of a block, so that there is room for
one match more for each line that is left of its block. -/
lemma isSpaced_lines (h : IsSpaced 0 rest) (file : Path) (lines : List Bytes) {index room : Nat}
    (hroom : index % blockLength = 0 ∨ blockLength ≤ room + index % blockLength) :
    IsSpaced room ((lines.zipIdx index).flatMap (entrySteps test file) ++ rest) := by
  induction lines generalizing index room with
  | nil => exact h.mono (Nat.zero_le room)
  | cons line lines ih =>
    rw [List.zipIdx_cons, List.flatMap_cons, List.append_assoc, entrySteps, List.append_assoc]
    by_cases hask : index % blockLength = 0
    · rw [if_pos hask]
      have hrest : IsSpaced (blockLength - 1)
          ((lines.zipIdx (index + 1)).flatMap (entrySteps test file) ++ rest) := by
        refine ih ?_
        unfold blockLength at *
        omega
      exact isSpaced_lineStep hrest file line
    · rw [if_neg hask]
      have hpos : room = room - 1 + 1 := by
        have hless : index % blockLength < blockLength := Nat.mod_lt _ (by decide)
        omega
      rw [hpos]
      refine isSpaced_lineStep (ih ?_) file line
      unfold blockLength at *
      omega

/-- In a file a question stands before each block of lines. -/
lemma isSpaced_fileSteps (h : IsSpaced 0 rest) (file : Path) {room : Nat} :
    IsSpaced room (fileSteps fs cwd test file ++ rest) := by
  unfold fileSteps
  show IsSpaced 0 (_ ++ rest)
  split
  · exact trivial
  · exact h
  · split
    · exact h
    · split
      · exact h
      · exact isSpaced_lines h file _ (.inl rfl)

/-- In a directory a question stands before each file. -/
lemma isSpaced_directorySteps (h : IsSpaced 0 rest) (dir : Path) (files : List Component) :
    IsSpaced 0 (directorySteps fs cwd test dir files ++ rest) := by
  show IsSpaced 0 (files.flatMap (fun file => fileSteps fs cwd test (dir.child file)) ++ rest)
  induction files with
  | nil => exact h
  | cons file files ih =>
    rw [List.flatMap_cons, List.append_assoc]
    exact isSpaced_fileSteps ih (dir.child file)

/-- In a walk a question stands before each place. -/
lemma isSpaced_steps (fs : FileSystem) (cwd root : Path) (test : Text → Bool) :
    IsSpaced 0 (steps fs cwd root test) := by
  unfold steps
  split
  · exact trivial
  · induction fs.tree cwd root with
    | nil => exact trivial
    | cons place places ih => exact isSpaced_directorySteps ih place.1 place.2

/-- In no beginning of what happens more is found than there is room for, with a block more for each question. -/
def FindsWithin (room : Nat) (moments : List Moment) : Prop :=
  ∀ before, before <+: moments →
    (before.filterMap Moment.match?).length ≤ room + blockLength * before.countP Moment.isQuestion

namespace FindsWithin

variable {room : Nat} {moments : List Moment}

lemma nil (room : Nat) : FindsWithin room [] := by
  intro before hbefore
  rw [List.prefix_nil.mp hbefore]
  exact Nat.zero_le _

/-- A question makes room for a block. -/
lemma asked (h : FindsWithin room moments) (hroom : room ≤ blockLength) (stop : Bool) (more : Nat) :
    FindsWithin more (.asked stop :: moments) := by
  intro before hbefore
  rcases List.prefix_cons_iff.mp hbefore with rfl | ⟨before, rfl, hrest⟩
  · exact Nat.zero_le _
  · have hfound := h before hrest
    rw [List.filterMap_cons_none rfl, List.countP_cons_of_pos rfl, Nat.mul_succ]
    omega

/-- A match takes up room for one. -/
lemma found (h : FindsWithin (room - 1) moments) (hroom : 0 < room) (m : LineMatch) :
    FindsWithin room (.found m :: moments) := by
  intro before hbefore
  rcases List.prefix_cons_iff.mp hbefore with rfl | ⟨before, rfl, hrest⟩
  · exact Nat.zero_le _
  · have hfound := h before hrest
    rw [List.filterMap_cons_some (show Moment.match? (.found m) = some m from rfl), List.length_cons,
      List.countP_cons_of_neg (by simp [Moment.isQuestion])]
    omega

/-- A note takes up no room. -/
lemma noted (h : FindsWithin room moments) (n : Note) : FindsWithin room (.noted n :: moments) := by
  intro before hbefore
  rcases List.prefix_cons_iff.mp hbefore with rfl | ⟨before, rfl, hrest⟩
  · exact Nat.zero_le _
  · rw [List.filterMap_cons_none rfl, List.countP_cons_of_neg (by simp [Moment.isQuestion])]
    exact h before hrest

end FindsWithin

/-- So it is in the walk that nobody stops. -/
lemma IsSpaced.findsWithin {room : Nat} {steps : List Step} (h : IsSpaced room steps) (asked : Nat) :
    FindsWithin room (play never false steps asked).moments := by
  induction steps generalizing room asked with
  | nil => exact .nil room
  | cons step rest ih =>
    cases step with
    | askPlace =>
      rw [play_askPlace_of_go rest (never_eq asked)]
      exact (ih h (asked + 1)).asked (Nat.zero_le blockLength) false room
    | askLines =>
      rw [play_askLines]
      exact (ih h (asked + 1)).asked (Nat.le_refl blockLength) (never asked) room
    | found m =>
      rw [play_found]
      exact (ih h.2 asked).found h.1 m
    | note n =>
      rw [play_note]
      exact (ih h asked).noted n
    | failed e => exact .nil room

/-- The walk that nobody stops finds no more than a block for each question. -/
lemma findsWithin_course_never (fs : FileSystem) (cwd root : Path) (test : Text → Bool) :
    FindsWithin 0 (course never fs cwd root test).moments := by
  unfold course
  rw [walkPart_eq_play]
  exact (isSpaced_steps fs cwd root test).findsWithin 0

/-- A walk that is cut off finds no more than a block for each of the questions it had left. -/
lemma IsCut.length_le {left : Nat} {whole run : Course} (h : IsCut left whole run)
    (hwhole : FindsWithin 0 whole.moments) : run.found.length ≤ blockLength * left := by
  cases h with
  | uncut h hasked =>
    have hfound := (hwhole _ List.prefix_rfl).trans_eq (Nat.zero_add _)
    rw [h]
    exact hfound.trans (Nat.mul_le_mul_left blockLength hasked)
  | cut hbefore hleft hmoments hbehind =>
    have hfound := (hwhole _ ((List.prefix_append _ _).trans hbefore)).trans_eq (Nat.zero_add _)
    rw [found_of_cut hmoments hbehind]
    exact hfound.trans_eq (congrArg _ hleft)

/-! ## The walk as a whole -/

/-- A run of a walk that is told to stop after `n` questions, beside the walk that nobody stops. -/
structure IsBoundedPrefix (n : Nat) (whole run : Course) : Prop where
  /-- `n` times it is told to go on, and to stop from then on. -/
  answers : run.moments.filterMap Moment.answer? = (List.range run.asked).map fun i => decide (n ≤ i)
  found_prefix : run.found <+: whole.found
  /-- Nothing is found after it has been told to stop. -/
  found_before : run.moments.Pairwise fun earlier later => earlier = .asked true → ∀ m, later ≠ .found m
  asked_le : run.asked ≤ n + 2
  length_le : run.found.length ≤ 256 * n
  eq_whole : run.asked < n + 1 → run = whole

/-- A walk that is told to stop after `n` questions finds a beginning of what it finds when nobody stops it, and asks at
most twice more; what it finds grows with `n`.  That is so of the loops that ask, and what comes of these is what is
told of a walk with an allowance. -/
theorem cancelled_isBoundedPrefix (fs : FileSystem) (cwd root : Path) (test : Text → Bool) (n : Nat) :
    (course (stopAfter n) fs cwd root test).outcome = Outcome.ofSteps (some n) (steps fs cwd root test) ∧
    (course never fs cwd root test).outcome = whole fs cwd root test ∧
    IsBoundedPrefix n (course never fs cwd root test) (course (stopAfter n) fs cwd root test) ∧
    ∀ more, n ≤ more →
      (course (stopAfter n) fs cwd root test).found <+: (course (stopAfter more) fs cwd root test).found := by
  have hcut := isCut_course n fs cwd root test
  refine ⟨outcome_course (isAllowance_stopAfter n) fs cwd root test,
    outcome_course isAllowance_never fs cwd root test, ?_, fun more hle => ?_⟩
  · exact {
      answers := answers_course (stopAfter n) fs cwd root test
      found_prefix := hcut.found_prefix
      found_before := hcut.pairwise (asked_true_notMem_course_never fs cwd root test)
      asked_le := hcut.asked_le
      length_le := hcut.length_le (findsWithin_course_never fs cwd root test)
      eq_whole := hcut.eq_whole }
  · exact hcut.found_prefix_of_le (isCut_course more fs cwd root test) hle

/-- Two files with a line each. -/
def lineInEach : FileSystem :=
  (FileSystem.empty.put (Path.ofText "/p/a.c".toList).components
    { entry := .file (Text.Utf8.encode "x\n".toList) }).put (Path.ofText "/p/b.c".toList).components
      { entry := .file (Text.Utf8.encode "x\n".toList) }

/-- The walk through these two files for an `x`, with some answers. -/
def lineInEachCourse (stop : Nat → Bool) : Course :=
  course stop lineInEach Path.root (Path.ofText "/p".toList) (Pattern.literal "x".toList).isFoundIn

/-- Stopped at the lines of the first file the walk asks once more, and stopped at the second file it does not. -/
theorem cancelled_lineInEach :
    (lineInEachCourse (stopAfter 2)).moments = [.asked false, .asked false, .asked true, .asked true] ∧
    (lineInEachCourse (stopAfter 3)).moments
      = [.asked false, .asked false, .asked false, .found ⟨Path.ofText "/p/a.c".toList, "x".toList⟩,
        .asked true] ∧
    2 ≤ 3 ∧
    (lineInEachCourse (stopAfter 2)).found <+: (lineInEachCourse (stopAfter 3)).found ∧
    IsBoundedPrefix 2 (lineInEachCourse never) (lineInEachCourse (stopAfter 2)) := by
  obtain ⟨-, -, hbounded, hgrows⟩ :=
    cancelled_isBoundedPrefix lineInEach Path.root (Path.ofText "/p".toList) (Pattern.literal "x".toList).isFoundIn 2
  exact ⟨by decide +kernel, by decide +kernel, by decide, hgrows 3 (by decide), hbounded⟩

end Counterpart.Walk
