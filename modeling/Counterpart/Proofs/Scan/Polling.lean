import Counterpart.Proofs.Scan.Walk
import Counterpart.Scan.Polling

/-!
# The loops of a walk and its steps

The three loops of a walk do its steps one after the other, whatever is answered to their questions: a question among
the lines of a file that is answered with a stop leads on behind the file.

* `answers_course`: the questions are answered one after the other;
* `play`: what becomes of a list of steps with such answers;
* `Plays`: a part of the walk does some steps, whatever steps come behind it;
* `walkPart_eq_play`: the walk as a whole does its steps;
* `outcome_course`: what comes of it is what comes of the steps with an allowance of questions.
-/

namespace Counterpart.Walk

/-! ## Parts one after the other -/

namespace Course

/-- The questions of a course are those of its front and of its back. -/
lemma asked_append (moments more : List Moment) (ending ending' : Ending) :
    (Course.mk (moments ++ more) ending).asked = (Course.mk moments ending').asked + (Course.mk more ending).asked :=
  List.countP_append

/-- A course with one thing more at the beginning. -/
def happensFirst (moment : Moment) (course : Course) : Course := { course with moments := moment :: course.moments }

/-- A question put first counts as one more. -/
lemma outcome_askedFirst (stop : Bool) (course : Course) :
    (course.happensFirst (.asked stop)).outcome = course.outcome.askedFirst := by
  unfold outcome asked happensFirst Outcome.askedFirst
  rw [List.countP_cons_of_pos (by rfl)]
  rfl

/-- A match found first stands before the others. -/
lemma outcome_foundFirst (m : LineMatch) (course : Course) :
    (course.happensFirst (.found m)).outcome = course.outcome.foundFirst m := by
  unfold outcome asked happensFirst Outcome.foundFirst
  rw [List.countP_cons_of_neg (by simp [Moment.isQuestion])]
  rfl

/-- A note makes no difference to what comes of a course. -/
lemma outcome_notedFirst (n : Note) (course : Course) :
    (course.happensFirst (.noted n)).outcome = course.outcome := by
  unfold outcome asked happensFirst
  rw [List.countP_cons_of_neg (by simp [Moment.isQuestion])]
  rfl

end Course

namespace Part

variable {a a' b c : Part} {asked : Nat}

/-- A part that comes through is followed by the next, which goes on counting the questions. -/
lemma andThen_of_through (h : (a asked).ending = .through) :
    a.andThen b asked =
      ⟨(a asked).moments ++ (b (asked + (a asked).asked)).moments, (b (asked + (a asked).asked)).ending⟩ :=
  if_pos h

/-- Behind a part that does not come through nothing happens. -/
lemma andThen_of_ne_through (h : (a asked).ending ≠ .through) : a.andThen b asked = a asked := if_neg h

lemma andThen_congr (h : a asked = a' asked) (b : Part) : a.andThen b asked = a'.andThen b asked := by
  unfold andThen
  rw [h]

lemma nothing_andThen (a : Part) : nothing.andThen a = a := rfl

lemma happens_asked_andThen (stop : Bool) (a : Part) (asked : Nat) :
    (happens (.asked stop)).andThen a asked = (a (asked + 1)).happensFirst (.asked stop) := rfl

lemma andThen_nothing (a : Part) : a.andThen nothing = a := by
  funext asked
  by_cases h : (a asked).ending = .through
  · rw [andThen_of_through h]
    show Course.mk ((a asked).moments ++ []) .through = a asked
    rw [List.append_nil, ← h]
  · exact andThen_of_ne_through h

/-- It does not matter how parts are grouped. -/
lemma andThen_assoc (a b c : Part) : (a.andThen b).andThen c = a.andThen (b.andThen c) := by
  funext asked
  by_cases ha : (a asked).ending = .through
  · by_cases hb : (b (asked + (a asked).asked)).ending = .through
    · have hab : (a.andThen b asked).ending = .through := by rw [andThen_of_through ha, hb]
      -- the third part is told of the questions of both parts before it
      have hasked : (a.andThen b asked).asked = (a asked).asked + (b (asked + (a asked).asked)).asked := by
        rw [andThen_of_through ha, Course.asked_append _ _ _ (a asked).ending]
      rw [andThen_of_through hab, andThen_of_through ha (b := b.andThen c), andThen_of_through hb, hasked,
        andThen_of_through ha, List.append_assoc, Nat.add_assoc]
    · have hab : (a.andThen b asked).ending ≠ .through := by rwa [andThen_of_through ha]
      rw [andThen_of_ne_through hab, andThen_of_through ha, andThen_of_through ha, andThen_of_ne_through hb]
  · have hab : (a.andThen b asked).ending ≠ .through := by rwa [andThen_of_ne_through ha]
    rw [andThen_of_ne_through hab, andThen_of_ne_through ha, andThen_of_ne_through ha]

lemma alone_congr (h : a asked = a' asked) : a.alone asked = a'.alone asked := by
  unfold alone
  rw [h]

/-- What comes first in a part that may be stopped, and is not stopped itself, comes before it. -/
lemma alone_andThen (h : ∀ asked, (a asked).ending = .through) (b : Part) :
    (a.andThen b).alone = a.andThen b.alone := by
  funext asked
  rw [andThen_of_through (h asked)]
  unfold alone
  rw [andThen_of_through (h asked)]
  dsimp only
  split <;> rfl

variable {stop : Nat → Bool}

/-- A question that is answered with no is only counted. -/
lemma ask_of_go (h : stop asked = false) : ask stop asked = happens (.asked false) asked := by
  unfold ask happens
  rw [h]
  rfl

/-- A question that is answered with yes is the last moment. -/
lemma ask_andThen_of_stop (h : stop asked = true) (a : Part) :
    (ask stop).andThen a asked = ⟨[.asked true], .stopped⟩ := by
  have hask : ask stop asked = ⟨[.asked true], .stopped⟩ := by
    unfold ask
    rw [h]
    rfl
  rw [andThen_of_ne_through (by rw [hask]; simp), hask]

/-- A part that is stopped with its first question ends there, and the walk goes on. -/
lemma alone_ask_of_stop (h : stop asked = true) (a : Part) :
    ((ask stop).andThen a).alone asked = happens (.asked true) asked := by
  unfold alone
  rw [ask_andThen_of_stop h]
  rfl

end Part

/-! ## Questions in their order -/

/-- The answer to a question. -/
def Moment.answer? : Moment → Option Bool
  | .asked stop => some stop
  | _ => none

namespace Part

variable {stop : Nat → Bool} {a b : Part}

/-- A part of a walk gets the next answer for each of its questions. -/
def AsksInOrder (stop : Nat → Bool) (part : Part) : Prop :=
  ∀ asked, (part asked).moments.filterMap Moment.answer? = (List.range' asked (part asked).asked).map stop

lemma asksInOrder_ask (stop : Nat → Bool) : (ask stop).AsksInOrder stop := fun _ => rfl

lemma asksInOrder_nothing : nothing.AsksInOrder stop := fun _ => rfl

lemma asksInOrder_fails (e : LookError) : (fails e).AsksInOrder stop := fun _ => rfl

lemma asksInOrder_found (m : LineMatch) : (happens (.found m)).AsksInOrder stop := fun _ => rfl

lemma asksInOrder_noted (n : Note) : (happens (.noted n)).AsksInOrder stop := fun _ => rfl

/-- Of two parts the second goes on with the answers where the first has left off. -/
lemma AsksInOrder.andThen (ha : a.AsksInOrder stop) (hb : b.AsksInOrder stop) :
    (a.andThen b).AsksInOrder stop := by
  intro asked
  by_cases h : (a asked).ending = .through
  · rw [andThen_of_through h, Course.asked_append _ _ _ (a asked).ending, List.filterMap_append, ha, hb,
      ← List.range'_append_1, List.map_append]
  · rw [andThen_of_ne_through h]
    exact ha asked

/-- It makes no difference to the answers whether a stop is only for the part itself. -/
lemma AsksInOrder.alone (ha : a.AsksInOrder stop) : a.alone.AsksInOrder stop := by
  intro asked
  unfold Part.alone
  dsimp only
  split
  · exact ha asked
  · exact ha asked

/-- Parts that get the answers in order do so one after the other. -/
lemma asksInOrder_each {α : Type} {part : α → Part} (h : ∀ x, (part x).AsksInOrder stop) (xs : List α) :
    (each part xs).AsksInOrder stop := by
  induction xs with
  | nil => exact asksInOrder_nothing
  | cons x xs ih => exact (h x).andThen ih

end Part

/-- The part for a line gets the answers in order. -/
lemma asksInOrder_linePart (stop : Nat → Bool) (test : Text → Bool) (file : Path) (entry : Bytes × Nat) :
    (linePart stop test file entry).AsksInOrder stop := by
  refine Part.AsksInOrder.andThen ?_ ?_
  · split
    · exact Part.asksInOrder_ask stop
    · exact Part.asksInOrder_nothing
  · split
    · exact Part.asksInOrder_found _
    · exact Part.asksInOrder_nothing

/-- The part for a file gets the answers in order. -/
lemma asksInOrder_filePart (stop : Nat → Bool) (fs : FileSystem) (cwd : Path) (test : Text → Bool) (file : Path) :
    (filePart stop fs cwd test file).AsksInOrder stop := by
  refine (Part.asksInOrder_ask stop).andThen ?_
  split
  · exact Part.asksInOrder_fails _
  · exact Part.asksInOrder_nothing
  · unfold contentPart
    split
    · exact Part.asksInOrder_noted _
    · split
      · exact Part.asksInOrder_nothing
      · exact (Part.asksInOrder_each (asksInOrder_linePart stop test file) _).alone

/-- The questions of a walk are answered one after the other. -/
theorem answers_course (stop : Nat → Bool) (fs : FileSystem) (cwd root : Path) (test : Text → Bool) :
    (course stop fs cwd root test).moments.filterMap Moment.answer?
      = (List.range (course stop fs cwd root test).asked).map stop := by
  have hplaces (place : Path × List Component) : (directoryPart stop fs cwd test place).AsksInOrder stop :=
    (Part.asksInOrder_ask stop).andThen (Part.asksInOrder_each (fun _ => asksInOrder_filePart stop fs cwd test _) _)
  have hwalk : (walkPart stop fs cwd root test).AsksInOrder stop := by
    unfold walkPart
    split
    · exact Part.asksInOrder_fails _
    · exact Part.asksInOrder_each hplaces _
  rw [List.range_eq_range']
  exact hwalk 0

/-! ## Steps with answers -/

variable {stop : Nat → Bool}

/-- What becomes of some steps if question number `i` is answered with `stop i`.  When a file has been given up, the
steps up to the question for the next place are left out. -/
def play (stop : Nat → Bool) : (givenUp : Bool) → List Step → Part
  | _, [] => .nothing
  | _, .askPlace :: rest => (Part.ask stop).andThen (play stop false rest)
  | true, _ :: rest => play stop true rest
  | false, .askLines :: rest => fun asked =>
    (Part.happens (.asked (stop asked))).andThen (play stop (stop asked) rest) asked
  | false, .found m :: rest => (Part.happens (.found m)).andThen (play stop false rest)
  | false, .note n :: rest => (Part.happens (.noted n)).andThen (play stop false rest)
  | false, .failed e :: _ => .fails e

section Equations

variable {asked : Nat} (rest : List Step)

/-- Steps are left out from a file that has been given up, up to the next place. -/
lemma play_givenUp {step : Step} (h : step ≠ .askPlace) : play stop true (step :: rest) = play stop true rest := by
  cases step with
  | askPlace => exact absurd rfl h
  | askLines => rfl
  | found m => rfl
  | note n => rfl
  | failed e => rfl

/-- At a new place the question is put whether to go on at all. -/
lemma play_askPlace (givenUp : Bool) :
    play stop givenUp (.askPlace :: rest) = (Part.ask stop).andThen (play stop false rest) := by
  cases givenUp <;> rfl

/-- The walk goes on to the place when the answer is no. -/
lemma play_askPlace_of_go (h : stop asked = false) :
    play stop false (.askPlace :: rest) asked = (play stop false rest (asked + 1)).happensFirst (.asked false) :=
  Part.andThen_congr (Part.ask_of_go h) _

/-- The walk is over when the answer is yes. -/
lemma play_askPlace_of_stop (h : stop asked = true) (givenUp : Bool) :
    play stop givenUp (.askPlace :: rest) asked = ⟨[.asked true], .stopped⟩ := by
  rw [play_askPlace, Part.ask_andThen_of_stop h]

/-- In a file the answer tells whether the rest of it is given up. -/
lemma play_askLines :
    play stop false (.askLines :: rest) asked
      = (play stop (stop asked) rest (asked + 1)).happensFirst (.asked (stop asked)) := rfl

lemma play_found (m : LineMatch) :
    play stop false (.found m :: rest) asked = (play stop false rest asked).happensFirst (.found m) := rfl

lemma play_note (n : Note) :
    play stop false (.note n :: rest) asked = (play stop false rest asked).happensFirst (.noted n) := rfl

lemma play_failed (e : LookError) : play stop false (.failed e :: rest) asked = ⟨[], .failed e⟩ := rfl

end Equations

/-- Some steps are at an end, or go on to the next directory or file. -/
def BeginsPlace (steps : List Step) : Prop := ∀ step ∈ steps.head?, step = .askPlace

lemma beginsPlace_nil : BeginsPlace [] := fun _ h => absurd h (by simp)

/-- The steps through a file that has been given up are left out. -/
lemma play_givenUp_append {steps rest : List Step} (hsteps : .askPlace ∉ steps) (hrest : BeginsPlace rest) :
    play stop true (steps ++ rest) = play stop false rest := by
  induction steps with
  | nil =>
    cases rest with
    | nil => rfl
    | cons step rest =>
      obtain rfl : step = .askPlace := hrest step rfl
      rfl
  | cons step steps ih =>
    obtain ⟨hstep, hsteps⟩ := List.ne_and_not_mem_of_not_mem_cons hsteps
    rw [List.cons_append, play_givenUp _ (Ne.symm hstep), ih hsteps]

/-- A part of a walk does some steps, whatever place the walk goes on to. -/
def Plays (stop : Nat → Bool) (part : Part) (steps : List Step) : Prop :=
  ∀ rest, BeginsPlace rest → play stop false (steps ++ rest) = part.andThen (play stop false rest)

/-- Where there are no steps nothing happens. -/
lemma plays_nothing : Plays stop .nothing [] := fun _ _ => rfl

/-- A refused look ends the walk. -/
lemma plays_fails (e : LookError) : Plays stop (.fails e) [.failed e] := fun _ _ => rfl

/-- A note is played as it is. -/
lemma plays_noted (n : Note) : Plays stop (.happens (.noted n)) [.note n] := fun _ _ => rfl

/-- A question before a part stands before its steps. -/
lemma Plays.askPlace {part : Part} {steps : List Step} (h : Plays stop part steps) :
    Plays stop ((Part.ask stop).andThen part) (.askPlace :: steps) := fun rest hrest => by
  rw [List.cons_append, play_askPlace, h rest hrest, Part.andThen_assoc]

/-- A loop over places does the steps through each of them. -/
lemma plays_each {α : Type} {part : α → Part} {steps : α → List Step} (h : ∀ a, Plays stop (part a) (steps a))
    (hplace : ∀ a, (steps a).head? = some .askPlace) (as : List α) :
    Plays stop (.each part as) (as.flatMap steps) := fun rest hrest => by
  induction as with
  | nil => rfl
  | cons a as ih =>
    have hbegins : BeginsPlace (as.flatMap steps ++ rest) := by
      cases as with
      | nil => exact hrest
      | cons a' as =>
        intro step hstep
        rw [List.flatMap_cons, List.append_assoc, List.head?_append, hplace a'] at hstep
        exact (Option.some.inj hstep).symm
    rw [List.flatMap_cons, List.append_assoc, h a _ hbegins, ih, ← Part.andThen_assoc, ← Part.each]

/-! ## The lines of a file -/

variable {fs : FileSystem} {cwd file : Path} {test : Text → Bool}

/-- What is found in a line. -/
def reportPart (test : Text → Bool) (file : Path) (line : Bytes) : Part :=
  if test (lineText line) then .happens (.found ⟨file, lineText line⟩) else .nothing

/-- Reporting a line always comes through. -/
lemma reportPart_ending (line : Bytes) (asked : Nat) : (reportPart test file line asked).ending = .through := by
  unfold reportPart
  split <;> rfl

/-- The step of a line reports it. -/
lemma play_lineStep (line : Bytes) (rest : List Step) :
    play stop false (lineStep test file line ++ rest)
      = (reportPart test file line).andThen (play stop false rest) := by
  unfold lineStep reportPart
  dsimp only
  split <;> rfl

/-- The steps through a line of a file with its number. -/
def entrySteps (test : Text → Bool) (file : Path) : Bytes × Nat → List Step
  | (line, index) => (if index % blockLength = 0 then [.askLines] else []) ++ lineStep test file line

/-- No new place begins at a line. -/
lemma askPlace_notMem_lineStep (line : Bytes) : .askPlace ∉ lineStep test file line := by
  unfold lineStep
  dsimp only
  split <;> simp

/-- No new place begins inside a file. -/
lemma askPlace_notMem_entrySteps (entries : List (Bytes × Nat)) :
    .askPlace ∉ entries.flatMap (entrySteps test file) := by
  intro h
  obtain ⟨⟨line, index⟩, -, hstep⟩ := List.mem_flatMap.mp h
  rcases List.mem_append.mp hstep with hstep | hstep
  · split at hstep <;> simp at hstep
  · exact askPlace_notMem_lineStep line hstep

/-- The loop over the lines of a file does the steps through them. -/
lemma plays_entries (entries : List (Bytes × Nat)) :
    Plays stop (.alone (.each (linePart stop test file) entries))
      (entries.flatMap (entrySteps test file)) := fun rest hplace => by
  induction entries with
  | nil => rfl
  | cons entry entries ih =>
    obtain ⟨line, index⟩ := entry
    have hrest : play stop false (lineStep test file line ++ (entries.flatMap (entrySteps test file) ++ rest))
        = ((reportPart test file line).andThen (.each (linePart stop test file) entries)).alone.andThen
            (play stop false rest) := by
      rw [play_lineStep, ih, Part.alone_andThen (reportPart_ending line), Part.andThen_assoc]
    have hpart : Part.each (linePart stop test file) ((line, index) :: entries)
        = (if index % blockLength = 0 then Part.ask stop else Part.nothing).andThen
            ((reportPart test file line).andThen (.each (linePart stop test file) entries)) :=
      Part.andThen_assoc _ _ _
    rw [hpart, List.flatMap_cons, List.append_assoc, entrySteps, List.append_assoc]
    by_cases hask : index % blockLength = 0
    · rw [if_pos hask, if_pos hask, List.singleton_append]
      funext asked
      cases hstop : stop asked with
      | true =>
        -- the rest of the file is left out, and the walk goes on behind it
        have hbehind : play stop true (lineStep test file line ++ (entries.flatMap (entrySteps test file) ++ rest))
            = play stop false rest := by
          rw [← List.append_assoc]
          refine play_givenUp_append (fun h => ?_) hplace
          exact (List.mem_append.mp h).elim (askPlace_notMem_lineStep line) (askPlace_notMem_entrySteps entries)
        rw [play_askLines, hstop, hbehind, Part.andThen_congr (Part.alone_ask_of_stop hstop _),
          Part.happens_asked_andThen]
      | false =>
        have hgo := Part.andThen_congr (Part.ask_of_go hstop)
          ((reportPart test file line).andThen (.each (linePart stop test file) entries))
        rw [play_askLines, hstop, hrest, Part.andThen_congr (Part.alone_congr hgo),
          Part.alone_andThen (a := .happens (.asked false)) fun _ => rfl, Part.andThen_assoc,
          Part.happens_asked_andThen]
    · rw [if_neg hask, if_neg hask, List.nil_append, Part.nothing_andThen, hrest]

/-! ## Files and directories -/

/-- The steps of a file look through it. -/
lemma plays_filePart (fs : FileSystem) (cwd : Path) (test : Text → Bool) (file : Path) :
    Plays stop (filePart stop fs cwd test file) (fileSteps fs cwd test file) := by
  unfold filePart fileSteps
  refine Plays.askPlace ?_
  cases fs.isFile cwd file with
  | error e => exact plays_fails e
  | ok isFile =>
    cases isFile with
    | false => exact plays_nothing
    | true =>
      unfold contentPart
      cases fs.read cwd file with
      | error e => exact plays_noted _
      | ok data =>
        dsimp only
        split
        · exact plays_nothing
        · exact plays_entries data.lines.zipIdx

/-- The steps of a directory are its own part, with its files in order. -/
lemma plays_directoryPart (fs : FileSystem) (cwd : Path) (test : Text → Bool) (place : Path × List Component) :
    Plays stop (directoryPart stop fs cwd test place) (directorySteps fs cwd test place.1 place.2) := by
  obtain ⟨dir, files⟩ := place
  exact (plays_each (fun file => plays_filePart fs cwd test (dir.child file)) (fun _ => rfl) files).askPlace

/-- The loops of a walk do its steps. -/
theorem walkPart_eq_play (stop : Nat → Bool) (fs : FileSystem) (cwd root : Path) (test : Text → Bool) :
    walkPart stop fs cwd root test = play stop false (steps fs cwd root test) := by
  by_cases hnul : fs.list cwd root = .error .nul
  · unfold walkPart steps
    rw [hnul]
    rfl
  · have hloop : walkPart stop fs cwd root test = .each (directoryPart stop fs cwd test) (fs.tree cwd root) := by
      unfold walkPart
      split
      · next h => exact absurd h hnul
      · rfl
    have hplays : Plays stop (.each (directoryPart stop fs cwd test) (fs.tree cwd root))
        ((fs.tree cwd root).flatMap fun place => directorySteps fs cwd test place.1 place.2) :=
      plays_each (plays_directoryPart fs cwd test) (fun _ => rfl) _
    have hend := hplays [] beginsPlace_nil
    rw [List.append_nil, show play stop false [] = .nothing from rfl, Part.andThen_nothing] at hend
    rw [hloop, steps_of_ne_nul hnul, hend]

/-! ## What comes of a walk -/

/-- The answers to the questions from number `asked` on are those that an allowance leads to: no stop as long as it
lasts, and stops from then on. -/
def IsAllowance (stop : Nat → Bool) (asked : Nat) (allowance : Option Nat) : Prop :=
  ∀ i, stop (asked + i) = true ↔ ∃ n, allowance = some n ∧ n ≤ i

namespace IsAllowance

variable {asked : Nat} {allowance : Option Nat}

/-- A walk is told to stop exactly when no question is left to it. -/
lemma stop_iff (h : IsAllowance stop asked allowance) : stop asked = true ↔ allowance = some 0 := by
  have hzero := h 0
  rw [Nat.add_zero] at hzero
  rw [hzero]
  exact ⟨fun ⟨n, hn, hle⟩ => by rw [hn, Nat.le_zero.mp hle], fun h0 => ⟨0, h0, Nat.le_refl 0⟩⟩

/-- With each question the allowance becomes less. -/
lemma next (h : IsAllowance stop asked allowance) (hne : allowance ≠ some 0) :
    IsAllowance stop (asked + 1) (allowance.map (· - 1)) := by
  intro i
  rw [Nat.add_assoc, Nat.add_comm 1 i, h]
  cases allowance with
  | none => simp
  | some n =>
    have hpos : n ≠ 0 := fun h0 => hne (congrArg some h0)
    simp only [Option.some.injEq, exists_eq_left', Option.map_some]
    omega

/-- Once it is used up it stays so. -/
lemma next_of_zero (h : IsAllowance stop asked (some 0)) : IsAllowance stop (asked + 1) (some 0) := by
  intro i
  rw [Nat.add_assoc, h]
  simp

end IsAllowance

/-- If the next question is answered with a stop, that question is all that comes of a walk that has given up a file,
if there is one. -/
lemma play_givenUp_of_stop {asked : Nat} (h : stop asked = true) (rest : List Step) :
    play stop true rest asked =
      if rest.contains .askPlace then ⟨[.asked true], .stopped⟩ else ⟨[], .through⟩ := by
  induction rest with
  | nil => rfl
  | cons step rest ih =>
    by_cases hplace : step = .askPlace
    · rw [hplace, play_askPlace_of_stop rest h]
      rfl
    · rw [play_givenUp rest hplace, ih, List.contains_cons, beq_false_of_ne (Ne.symm hplace), Bool.false_or]

/-- What comes of some steps with answers is what comes of them with the allowance that the answers keep to. -/
lemma outcome_play {allowance : Option Nat} {asked : Nat} (h : IsAllowance stop asked allowance) (steps : List Step) :
    (play stop false steps asked).outcome = Outcome.ofSteps allowance steps := by
  induction steps generalizing asked allowance with
  | nil => rfl
  | cons step rest ih =>
    cases step with
    | askPlace =>
      rw [Outcome.ofSteps]
      by_cases hzero : allowance = some 0
      · rw [if_pos hzero, play_askPlace_of_stop rest (h.stop_iff.2 hzero)]
        rfl
      · have hgo : stop asked = false := eq_false_of_ne_true (mt h.stop_iff.1 hzero)
        rw [if_neg hzero, play_askPlace_of_go rest hgo, Course.outcome_askedFirst, ih (h.next hzero)]
    | askLines =>
      rw [Outcome.ofSteps, play_askLines, Course.outcome_askedFirst]
      by_cases hzero : allowance = some 0
      · subst hzero
        rw [if_pos rfl, h.stop_iff.2 rfl, play_givenUp_of_stop (h.next_of_zero.stop_iff.2 rfl)]
        split <;> rfl
      · rw [if_neg hzero, eq_false_of_ne_true (mt h.stop_iff.1 hzero), ih (h.next hzero)]
    | found m => rw [Outcome.ofSteps, play_found, Course.outcome_foundFirst, ih h]
    | note n => rw [Outcome.ofSteps, play_note, Course.outcome_notedFirst, ih h]
    | failed e => rfl

/-- The loops come to what is told of a walk with an allowance of questions. -/
theorem outcome_course {allowance : Option Nat} (h : IsAllowance stop 0 allowance) (fs : FileSystem)
    (cwd root : Path) (test : Text → Bool) :
    (course stop fs cwd root test).outcome = Outcome.ofSteps allowance (steps fs cwd root test) := by
  unfold course
  rw [walkPart_eq_play]
  exact outcome_play h _

end Counterpart.Walk
