import Counterpart.Proofs.FileSystem.Removal
import Counterpart.Proofs.Scan.Walk
import Mathlib.Data.List.Flatten
import Mathlib.Data.List.TakeWhile

/-!
# Walks past what cannot be read

A directory that cannot be listed and a file that cannot be opened are passed over.  Not so a file at which the look
itself is refused, be it a link to something behind a directory that lets nobody through: there the walk ends, and
hides what is in the files behind.

* `covers_steps`: a walk goes through its files one after the other, up to the first one at which a look is refused;
* `sublist_matchesBelow`: what is found when an entry was removed is found with the entry there, in the same order,
  as far as no look is refused;
* `walk_hidesOnlyBehindRefusal`: both together, for a walk as a whole.
-/

namespace Counterpart.Walk

variable {fs : FileSystem} {cwd : Path} {test : Text → Bool}

/-! ## Up to the first refusal -/

/-- What a walk fails on at a file, if it does. -/
def refusal? (fs : FileSystem) (cwd file : Path) : Option LookError :=
  match fs.isFile cwd file with
  | .error e => some e
  | .ok _ => none

lemma refusal?_eq_some_iff {file : Path} {e : LookError} :
    refusal? fs cwd file = some e ↔ ∃ fault, fs.Refuses cwd file fault ∧ e = .refused fault file := by
  rw [← FileSystem.leadsTo_eq_error_iff]
  show _ ↔ fs.isFile cwd file = _
  unfold refusal?
  cases fs.isFile cwd file <;> simp

lemma refusal?_eq_none_iff {file : Path} : refusal? fs cwd file = none ↔ ¬ fs.IsRefused cwd file := by
  constructor
  · intro hnone ⟨fault, hrefused⟩
    exact nomatch hnone.symm.trans (refusal?_eq_some_iff.2 ⟨fault, hrefused, rfl⟩)
  · intro h
    cases hrefusal : refusal? fs cwd file with
    | none => rfl
    | some e =>
      obtain ⟨fault, hrefused, -⟩ := refusal?_eq_some_iff.1 hrefusal
      exact absurd ⟨fault, hrefused⟩ h

/-- The files before the first one at which a look is refused. -/
def openFiles (fs : FileSystem) (cwd : Path) (files : List Path) : List Path :=
  files.takeWhile fun file => (refusal? fs cwd file).isNone

/-- Some steps lead through some files: they find what is in those before the first refusal, and fail on that. -/
structure Covers (fs : FileSystem) (cwd : Path) (test : Text → Bool) (steps : List Step) (files : List Path) :
    Prop where
  found : matchesOf steps = (openFiles fs cwd files).flatMap (matchesIn fs cwd test)
  error : steps.findSome? Step.error? = files.findSome? (refusal? fs cwd)

lemma Covers.cons {steps : List Step} {files : List Path} (h : Covers fs cwd test steps files) (file : Path) :
    Covers fs cwd test (fileSteps fs cwd test file ++ steps) (file :: files) := by
  cases hrefusal : refusal? fs cwd file with
  | some e =>
    have hisFile : fs.isFile cwd file = .error e := by
      unfold refusal? at hrefusal
      cases hfile : fs.isFile cwd file <;> simp_all
    have hsteps : fileSteps fs cwd test file = [.askPlace, .failed e] := by
      unfold fileSteps
      rw [hisFile]
    refine ⟨?_, ?_⟩
    · rw [hsteps, openFiles, List.takeWhile_cons_of_neg (by simp [hrefusal])]
      rfl
    · rw [hsteps, List.findSome?_cons, hrefusal]
      rfl
  | none =>
    have hfails : ∀ e, Step.failed e ∉ fileSteps fs cwd test file := by
      intro e hmem
      rw [refusal?, isFile_of_failed_mem hmem] at hrefusal
      exact nomatch hrefusal
    refine ⟨?_, ?_⟩
    · rw [matchesOf_append hfails, h.found]
      unfold openFiles
      rw [List.takeWhile_cons_of_pos (by simp [hrefusal]), List.flatMap_cons]
      rfl
    · rw [List.findSome?_append, findSome?_error?_eq_none hfails, List.findSome?_cons, hrefusal, h.error]
      rfl

lemma Covers.files {steps : List Step} {rest : List Path} (h : Covers fs cwd test steps rest)
    (files : List Path) :
    Covers fs cwd test (files.flatMap (fileSteps fs cwd test) ++ steps) (files ++ rest) := by
  induction files with
  | nil => exact h
  | cons file files ih =>
    rw [List.flatMap_cons, List.append_assoc]
    exact ih.cons file

/-- A walk goes through its files one after the other. -/
lemma covers_steps {root : Path} (h : fs.list cwd root ≠ .error .nul) :
    Covers fs cwd test (steps fs cwd root test) (walkedFiles fs cwd root) := by
  rw [steps_of_ne_nul h, walkedFiles]
  induction fs.tree cwd root with
  | nil => exact ⟨rfl, rfl⟩
  | cons place places ih =>
    rw [List.flatMap_cons, List.flatMap_cons]
    -- to ask whether to go on makes no difference when nobody says no
    have hfiles := ih.files (place.2.map place.1.child)
    rw [List.flatMap_map] at hfiles
    exact ⟨hfiles.found, hfiles.error⟩

/-! ## Without an entry -/

variable {l : Location}

/-- In a file of what is left the same is found as before, or nothing if it cannot be read any more. -/
lemma matchesIn_remove (l : Location) (test : Text → Bool) (file : Path) :
    matchesIn (fs.remove l) cwd test file = [] ∨
      matchesIn (fs.remove l) cwd test file = matchesIn fs cwd test file := by
  rcases (matchesIn (fs.remove l) cwd test file).eq_nil_or_concat with hnil | ⟨rest, m, hm⟩
  · exact .inl hnil
  · obtain ⟨hfile, -⟩ := mem_matchesIn.1 (show m ∈ matchesIn (fs.remove l) cwd test file by simp [hm])
    have hsame : fs.isFile cwd file = (fs.remove l).isFile cwd file :=
      FileSystem.leadsTo_remove (by rw [show FileSystem.leadsTo _ (fs.remove l) cwd file = _ from hfile]; simp)
    have hread : fs.read cwd file = (fs.remove l).read cwd file := by
      refine FileSystem.read_remove fun hmissing => ?_
      unfold FileSystem.isFile FileSystem.leadsTo at hfile
      rw [hmissing] at hfile
      exact nomatch hfile
    refine .inr ?_
    unfold matchesIn fileSteps
    rw [hsame, hread]

/-- In a link to a directory nothing is found. -/
lemma matchesIn_of_isLink {dir : Path} {child : Component × Node} (hlink : child.2.isLink = true)
    (h : fs.countsAsDirectory cwd dir child = true) : matchesIn fs cwd test (dir.child child.1) = [] := by
  rw [List.eq_nil_iff_forall_not_mem]
  intro m hm
  obtain ⟨hfile, -⟩ := mem_matchesIn.1 hm
  unfold FileSystem.isFile FileSystem.leadsTo at hfile
  unfold FileSystem.countsAsDirectory FileSystem.childIsDirectory at h
  unfold Node.isLink at hlink
  cases hentry : child.2.entry with
  | file data => simp [hentry] at hlink
  | directory => simp [hentry] at hlink
  | special => simp [hentry] at hlink
  | link target =>
    cases hlook : fs.look cwd (dir.child child.1) with
    | error e =>
      rw [hlook] at hfile
      dsimp only at hfile
      split at hfile <;> simp at hfile
    | ok found =>
      -- it leads to a directory, and not to a file
      simp only [hentry, hlook, decide_eq_true_eq] at h hfile
      simp [h] at hfile

/-- What comes of the elements of a list that satisfy one condition comes of those that satisfy another one, where
an element of the first kind alone leads to nothing. -/
lemma sublist_flatMap_filter {α β : Type} {xs : List α} {p q : α → Bool} {f g : α → List β}
    (h : ∀ x ∈ xs, p x = true → f x = [] ∨ (q x = true ∧ (f x).Sublist (g x))) :
    ((xs.filter p).flatMap f).Sublist ((xs.filter q).flatMap g) := by
  induction xs with
  | nil => exact List.Sublist.refl _
  | cons x xs ih =>
    have hrest := ih fun y hy => h y (List.mem_cons_of_mem x hy)
    have hmore : ((xs.filter q).flatMap g).Sublist (((x :: xs).filter q).flatMap g) :=
      ((List.sublist_cons_self x xs).filter q).flatMap g
    by_cases hp : p x = true
    · rw [List.filter_cons_of_pos hp, List.flatMap_cons]
      rcases h x List.mem_cons_self hp with hnil | ⟨hq, hx⟩
      · rw [hnil]
        exact hrest.trans hmore
      · rw [List.filter_cons_of_pos hq, List.flatMap_cons]
        exact hx.append hrest
    · rw [List.filter_cons_of_neg hp]
      exact hrest.trans hmore

/-- What is found in the files below a directory, down to some depth. -/
def matchesBelow (fs : FileSystem) (cwd : Path) (test : Text → Bool) (depth : Nat) (dir : Path) : List LineMatch :=
  ((fs.treeTo cwd depth dir).flatMap fun place => place.2.map place.1.child).flatMap (matchesIn fs cwd test)

lemma matchesBelow_succ {depth : Nat} {dir : Path} {children : List (Component × Node)}
    (h : fs.list cwd dir = .ok children) :
    matchesBelow fs cwd test (depth + 1) dir =
      (children.filter fun child => !fs.countsAsDirectory cwd dir child).flatMap
          (fun child => matchesIn fs cwd test (dir.child child.1)) ++
        (fs.entered cwd dir children).flatMap fun child => matchesBelow fs cwd test depth (dir.child child.1) := by
  unfold matchesBelow
  rw [FileSystem.treeTo_succ, h]
  simp only [List.flatMap_cons, List.flatMap_append, List.flatMap_assoc, FileSystem.others, List.flatMap_map]

/-- What is found without an entry is found with it there, in the same order. -/
lemma sublist_matchesBelow (l : Location) {depth depth' : Nat} (hdepth : depth ≤ depth') (dir : Path) :
    (matchesBelow (fs.remove l) cwd test depth dir).Sublist (matchesBelow fs cwd test depth' dir) := by
  induction depth generalizing depth' dir with
  | zero => exact List.nil_sublist _
  | succ depth ih =>
    obtain ⟨depth', rfl⟩ : ∃ n, depth' = n + 1 := ⟨depth' - 1, by omega⟩
    cases hlist : (fs.remove l).list cwd dir with
    | error e =>
      unfold matchesBelow
      rw [FileSystem.treeTo_succ, hlist]
      exact List.nil_sublist _
    | ok children =>
      obtain ⟨before, isKept, hbefore, rfl⟩ := FileSystem.list_remove hlist
      rw [matchesBelow_succ hlist, matchesBelow_succ hbefore, FileSystem.entered_remove, List.filter_filter]
      refine List.Sublist.append ?_ ?_
      · refine sublist_flatMap_filter fun child _ hkept => ?_
        obtain ⟨hfile, -⟩ := Bool.and_eq_true_iff.mp hkept
        -- a link that leads nowhere now may have led to a directory, but nothing is found there
        by_cases hcounts : fs.countsAsDirectory cwd dir child = true
        · refine .inl ?_
          cases hlink : child.2.isLink with
          | true =>
            rcases matchesIn_remove l test (dir.child child.1) with hnil | hsame
            · exact hnil
            · exact hsame.trans (matchesIn_of_isLink hlink hcounts)
          | false =>
            rw [FileSystem.countsAsDirectory_of_not_isLink fs (fs.remove l) hlink, hcounts] at hfile
            exact nomatch hfile
        · refine .inr ⟨by simpa using hcounts, ?_⟩
          rcases matchesIn_remove l test (dir.child child.1) with hnil | hsame
          · rw [hnil]
            exact List.nil_sublist _
          · rw [hsame]
      · rw [← List.filter_true (fs.entered cwd dir before), List.filter_filter]
        exact sublist_flatMap_filter fun child _ _ =>
          .inr ⟨rfl, ih (Nat.le_of_succ_le_succ hdepth) (dir.child child.1)⟩

/-! ## Walks as a whole -/

lemma depth_remove (fs : FileSystem) (l : Location) : (fs.remove l).depth ≤ fs.depth := by
  have hfold : ∀ (nodes : List (Location × Node)) (n : Nat), n ≤ fs.depth →
      (∀ entry ∈ nodes, entry.1.length ≤ fs.depth) →
      nodes.foldl (fun n entry => max n entry.1.length) n ≤ fs.depth := by
    intro nodes
    induction nodes with
    | nil => exact fun n hn _ => hn
    | cons entry rest ih =>
      intro n hn hnodes
      exact ih _ (Nat.max_le.mpr ⟨hn, hnodes entry List.mem_cons_self⟩)
        fun other hother => hnodes other (List.mem_cons_of_mem entry hother)
  exact hfold _ 0 (Nat.zero_le _) fun entry hentry => FileSystem.length_le_depth (List.mem_of_mem_filter hentry)

/-- What is hidden from a walk: nothing, if it is refused no look at a file, and else all that is in the files behind
the first such file, on which it fails. -/
inductive Hides (fs : FileSystem) (cwd root : Path) (test : Text → Bool) (outcome : Outcome) : List LineMatch → Prop
  | nothing (hfiles : MeetsNoRefusal fs cwd root)
      (herror : ∀ fault path, outcome.error ≠ some (.refused fault path))
      (hfound : outcome.found = (walkedFiles fs cwd root).flatMap (matchesIn fs cwd test)) :
      Hides fs cwd root test outcome []
  | rest {before behind : List Path} {file : Path} {fault : Fault}
      (hfiles : walkedFiles fs cwd root = before ++ file :: behind)
      (hbefore : ∀ earlier ∈ before, ¬ fs.IsRefused cwd earlier) (hfile : fs.Refuses cwd file fault)
      (herror : outcome.error = some (.refused fault file))
      (hfound : outcome.found = before.flatMap (matchesIn fs cwd test)) :
      Hides fs cwd root test outcome (behind.flatMap (matchesIn fs cwd test))

/-- What a walk finds and what is hidden from it is all that is in its files. -/
lemma Hides.all {root : Path} {outcome : Outcome} {hidden : List LineMatch}
    (h : Hides fs cwd root test outcome hidden) :
    outcome.found ++ hidden = (walkedFiles fs cwd root).flatMap (matchesIn fs cwd test) := by
  cases h with
  | nothing hfiles herror hfound => rw [hfound, List.append_nil]
  | @rest before behind file fault hfiles hbefore hfile herror hfound =>
    have hnone : matchesIn fs cwd test file = [] := by
      rw [List.eq_nil_iff_forall_not_mem]
      intro m hm
      have hisFile : fs.isFile cwd file = .error (.refused fault file) :=
        FileSystem.leadsTo_eq_error_iff.2 ⟨fault, hfile, rfl⟩
      exact nomatch hisFile.symm.trans (mem_matchesIn.1 hm).1
    rw [hfound, hfiles, List.flatMap_append, List.flatMap_cons, hnone, List.nil_append]

lemma hides_of_covers {root : Path} (h : Covers fs cwd test (steps fs cwd root test) (walkedFiles fs cwd root)) :
    ∃ hidden, Hides fs cwd root test (whole fs cwd root test) hidden := by
  obtain ⟨hfound, herror⟩ := ofSteps_none (steps fs cwd root test)
  rw [h.found] at hfound
  rw [h.error] at herror
  cases hrefusal : (walkedFiles fs cwd root).findSome? (refusal? fs cwd) with
  | none =>
    rw [hrefusal] at herror
    rw [List.findSome?_eq_none_iff] at hrefusal
    refine ⟨[], .nothing (fun file hfile => refusal?_eq_none_iff.1 (hrefusal file hfile)) ?_ ?_⟩
    · intro fault path hfault
      exact nomatch herror.symm.trans hfault
    · rw [openFiles, List.takeWhile_eq_self_iff.mpr fun file hfile => by rw [hrefusal file hfile]; rfl] at hfound
      exact hfound
  | some e =>
    rw [hrefusal] at herror
    obtain ⟨before, file, behind, hfiles, hrefused, hbefore⟩ := List.findSome?_eq_some_iff.mp hrefusal
    obtain ⟨fault, hfile, rfl⟩ := refusal?_eq_some_iff.1 hrefused
    refine ⟨_, .rest hfiles (fun earlier hearlier => refusal?_eq_none_iff.1 (hbefore earlier hearlier)) hfile herror ?_⟩
    -- the files before the first refusal are those that the walk gets through
    have hopen : openFiles fs cwd (before ++ file :: behind) = before := by
      unfold openFiles
      rw [List.takeWhile_append_of_pos fun earlier hearlier => by rw [hbefore earlier hearlier]; rfl,
        List.takeWhile_cons_of_neg (by simp [hrefused]), List.append_nil]
    rw [hfiles, hopen] at hfound
    exact hfound

lemma hides_whole (fs : FileSystem) (cwd root : Path) (test : Text → Bool) :
    ∃ hidden, Hides fs cwd root test (whole fs cwd root test) hidden := by
  by_cases hnul : fs.list cwd root = .error .nul
  · -- such a path cannot even be asked for, and so there is no file either
    have hsteps : steps fs cwd root test = [.failed .nul] := by
      unfold steps
      rw [hnul]
    have hfiles : walkedFiles fs cwd root = [] := by
      unfold walkedFiles FileSystem.tree
      rw [FileSystem.treeTo_succ, hnul]
      rfl
    refine ⟨[], .nothing ?_ ?_ ?_⟩
    · intro file hfile
      rw [hfiles] at hfile
      exact absurd hfile List.not_mem_nil
    · unfold whole
      rw [hsteps]
      exact fun fault path hfault => nomatch hfault
    · unfold whole
      rw [hsteps, hfiles]
      rfl
  · exact hides_of_covers (covers_steps hnul)

/-- What a walk finds without an entry is in the files that it goes through with the entry there. -/
lemma sublist_whole_remove (fs : FileSystem) (cwd root : Path) (test : Text → Bool) (l : Location) :
    (whole (fs.remove l) cwd root test).found.Sublist
      ((walkedFiles fs cwd root).flatMap (matchesIn fs cwd test)) := by
  obtain ⟨hidden, hhides⟩ := hides_whole (fs.remove l) cwd root test
  have hall : ((walkedFiles (fs.remove l) cwd root).flatMap (matchesIn (fs.remove l) cwd test)).Sublist
      ((walkedFiles fs cwd root).flatMap (matchesIn fs cwd test)) :=
    sublist_matchesBelow l (Nat.succ_le_succ (depth_remove fs l)) root
  rw [← hhides.all] at hall
  exact (List.sublist_append_left _ hidden).trans hall

/-- An entry that cannot be read hides nothing from a walk: what would be found if it were absent is found, in the
same order.  The one exception is a file at which the look itself is refused.  The walk fails on the first such file,
and what is in the files behind it is hidden. -/
theorem walk_hidesOnlyBehindRefusal (fs : FileSystem) (cwd root : Path) (test : Text → Bool) :
    ∃ hidden, Hides fs cwd root test (whole fs cwd root test) hidden ∧
      ∀ l, (whole (fs.remove l) cwd root test).found.Sublist
        ((whole fs cwd root test).found ++ hidden) := by
  obtain ⟨hidden, hhides⟩ := hides_whole fs cwd root test
  refine ⟨hidden, hhides, fun l => ?_⟩
  rw [hhides.all]
  exact sublist_whole_remove fs cwd root test l

/-- A source, and before it a link to something behind a directory that lets nobody through. -/
def linkBehindRefusal : FileSystem :=
  ((FileSystem.empty.put (Path.ofText "/q".toList).components { entry := .directory, statDenied := true }).put
    (Path.ofText "/p/b.c".toList).components { entry := .link (Path.ofText "/q/x.c".toList) }).put
      (Path.ofText "/p/c.c".toList).components { entry := .file (Text.Utf8.encode "x\n".toList) }

/-- The link hides the source. -/
theorem walk_linkBehindRefusal :
    (whole linkBehindRefusal Path.root (Path.ofText "/p".toList) (· == "x".toList)).found = [] ∧
    (whole (linkBehindRefusal.remove (Path.ofText "/p/b.c".toList).components) Path.root (Path.ofText "/p".toList)
      (· == "x".toList)).found = [⟨Path.ofText "/p/c.c".toList, "x".toList⟩] ∧
    ∃ hidden, hidden ≠ [] ∧ Hides linkBehindRefusal Path.root (Path.ofText "/p".toList) (· == "x".toList)
      (whole linkBehindRefusal Path.root (Path.ofText "/p".toList) (· == "x".toList)) hidden := by
  have hfound : (whole linkBehindRefusal Path.root (Path.ofText "/p".toList) (· == "x".toList)).found = [] := by
    decide +kernel
  have hremoved : (whole (linkBehindRefusal.remove (Path.ofText "/p/b.c".toList).components) Path.root
      (Path.ofText "/p".toList) (· == "x".toList)).found = [⟨Path.ofText "/p/c.c".toList, "x".toList⟩] := by
    decide +kernel
  obtain ⟨hidden, hhides, hlost⟩ := walk_hidesOnlyBehindRefusal linkBehindRefusal Path.root
    (Path.ofText "/p".toList) (· == "x".toList)
  refine ⟨hfound, hremoved, hidden, ?_, hhides⟩
  rintro rfl
  have hsublist := hlost (Path.ofText "/p/b.c".toList).components
  rw [hremoved, hfound] at hsublist
  exact absurd hsublist (by simp)

end Counterpart.Walk
