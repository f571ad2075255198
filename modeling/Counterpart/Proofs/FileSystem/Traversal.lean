import Counterpart.Proofs.FileSystem.Tree
import Mathlib.Data.List.Nodup

/-!
# Traversals of a directory tree

A traversal keeps a stack of directories that it still has to visit.  It visits the uppermost one: it comes to the
files in it, in the order in which they are listed, and puts the directories in it on the stack, links left out.

* `Traverses` is that rule, without a bound on the depth;
* `traverses_iff`: a traversal comes to its end, even where links lead round in circles, and comes to the files of the
  tree in their order, and to nothing else;
* `nodup_filesTo`: it comes to no file twice.
-/

namespace Counterpart.FileSystem

variable {fs : FileSystem} {cwd : Path}

/-- A traversal with some directories still to be visited ends, and comes to some files on the way.  A directory that
cannot be listed is passed over. -/
inductive Traverses (fs : FileSystem) (cwd : Path) : List Path → List Path → Prop
  | done : Traverses fs cwd [] []
  | unlisted {dir : Path} {stack files : List Path} {e : LookError} (hlist : fs.list cwd dir = .error e)
      (hrest : Traverses fs cwd stack files) : Traverses fs cwd (dir :: stack) files
  | listed {dir : Path} {stack files : List Path} {children : List (Component × Node)}
      (hlist : fs.list cwd dir = .ok children)
      (hrest : Traverses fs cwd ((fs.entered cwd dir children).map (fun child => dir.child child.1) ++ stack) files) :
      Traverses fs cwd (dir :: stack) ((fs.others cwd dir children).map dir.child ++ files)

/-- A traversal can go only one way. -/
lemma Traverses.unique {stack files files' : List Path} (h : Traverses fs cwd stack files)
    (h' : Traverses fs cwd stack files') : files = files' := by
  induction h generalizing files' with
  | done =>
    cases h'
    rfl
  | unlisted hlist _ ih =>
    cases h' with
    | unlisted _ hrest => exact ih hrest
    | listed hlist' _ => exact absurd (hlist.symm.trans hlist') (by simp)
  | listed hlist _ ih =>
    cases h' with
    | unlisted hlist' _ => exact absurd (hlist.symm.trans hlist') (by simp)
    | listed hlist' hrest =>
      obtain rfl := Except.ok.inj (hlist.symm.trans hlist')
      rw [ih hrest]

/-! ## The files of a tree -/

/-- The files of a tree down to some depth, in their order. -/
def filesTo (fs : FileSystem) (cwd : Path) (depth : Nat) (dir : Path) : List Path :=
  (fs.treeTo cwd depth dir).flatMap fun place => place.2.map place.1.child

lemma filesTo_of_error {dir : Path} {e : LookError} (h : fs.list cwd dir = .error e) (depth : Nat) :
    fs.filesTo cwd depth dir = [] := by
  unfold filesTo
  cases depth with
  | zero => rfl
  | succ depth =>
    rw [treeTo_succ, h]
    rfl

lemma filesTo_succ {dir : Path} {children : List (Component × Node)} (h : fs.list cwd dir = .ok children)
    (depth : Nat) :
    fs.filesTo cwd (depth + 1) dir = (fs.others cwd dir children).map dir.child ++
      (fs.entered cwd dir children).flatMap fun child => fs.filesTo cwd depth (dir.child child.1) := by
  unfold filesTo
  rw [treeTo_succ, h]
  dsimp only
  rw [List.flatMap_cons, List.flatMap_assoc]

/-- Directories one after the other: if each of them is traversed before what lies under it on the stack, all are. -/
lemma traverses_append {dirs stack files : List Path} {found : Path → List Path}
    (hdirs : ∀ dir ∈ dirs, ∀ {stack files}, Traverses fs cwd stack files →
      Traverses fs cwd (dir :: stack) (found dir ++ files))
    (h : Traverses fs cwd stack files) : Traverses fs cwd (dirs ++ stack) (dirs.flatMap found ++ files) := by
  induction dirs with
  | nil => exact h
  | cons dir dirs ih =>
    have hrest := ih fun other hother => hdirs other (List.mem_cons_of_mem dir hother)
    rw [List.flatMap_cons, List.append_assoc]
    exact hdirs dir List.mem_cons_self hrest

/-- A tree that is deep enough is traversed before what lies under it on the stack. -/
lemma traverses_filesTo (hwf : fs.WellFormed) {depth : Nat} {dir : Path} (hdepth : fs.IsDeepEnough cwd depth dir)
    {stack files : List Path} (h : Traverses fs cwd stack files) :
    Traverses fs cwd (dir :: stack) (fs.filesTo cwd depth dir ++ files) := by
  induction depth generalizing dir stack files with
  | zero =>
    cases hlist : fs.list cwd dir with
    | error e =>
      rw [filesTo_of_error hlist]
      exact .unlisted hlist h
    | ok children => exact absurd hlist (list_ne_ok_of_isDeepEnough_zero hdepth children)
  | succ depth ih =>
    cases hlist : fs.list cwd dir with
    | error e =>
      rw [filesTo_of_error hlist]
      exact .unlisted hlist h
    | ok children =>
      rw [filesTo_succ hlist, List.append_assoc]
      refine .listed hlist ?_
      rw [← List.flatMap_map (fun child : Component × Node => dir.child child.1) (fs.filesTo cwd depth)]
      refine traverses_append (fun below hbelow => ?_) h
      -- each directory has one name more, and the bound one less
      obtain ⟨child, hchild, rfl⟩ := List.mem_map.mp hbelow
      exact ih (hdepth.child hwf hlist hchild)

lemma isDeepEnough_depth (fs : FileSystem) (cwd dir : Path) : fs.IsDeepEnough cwd (fs.depth + 1) dir :=
  fun _ _ _ => by omega

/-- A traversal ends, and it comes to the files of the tree in their order. -/
theorem traverses_iff (hwf : fs.WellFormed) (cwd root : Path) (files : List Path) :
    Traverses fs cwd [root] files ↔ files = fs.filesTo cwd (fs.depth + 1) root := by
  have hdone : Traverses fs cwd [] [] := .done
  have htree := traverses_filesTo hwf (isDeepEnough_depth fs cwd root) hdone
  rw [List.append_nil] at htree
  exact ⟨fun h => h.unique htree, fun h => h ▸ htree⟩

/-! ## No file twice -/

lemma sublist_locations_children (fs : FileSystem) (l : Location) :
    ((fs.children l).map fun child => l ++ [child.1]).Sublist (fs.nodes.map (·.1)) := by
  unfold children
  induction fs.nodes with
  | nil => exact List.Sublist.refl _
  | cons entry rest ih =>
    obtain ⟨m, node⟩ := entry
    rw [List.filterMap_cons, List.map_cons]
    dsimp only
    split
    · exact ih.cons m
    · next child hchild =>
      have hm : l ++ [child.1] = m := by
        split at hchild
        · next name hlast =>
          split at hchild
          · next hinit =>
            obtain rfl := Option.some.inj hchild
            rw [← hinit, List.dropLast_append_getLast? name hlast]
          · exact nomatch hchild
        · exact nomatch hchild
      rw [List.map_cons, hm]
      exact ih.cons_cons m

/-- No two children of a directory have the same name. -/
lemma WellFormed.nodup_children (h : fs.WellFormed) (l : Location) : ((fs.children l).map (·.1)).Nodup := by
  have hlocations := h.nodup.sublist (sublist_locations_children fs l)
  rw [show (fun child : Component × Node => l ++ [child.1]) = (fun name => l ++ [name]) ∘ (·.1) from rfl,
    ← List.map_map] at hlocations
  exact hlocations.of_map _

lemma child_injective (dir : Path) : Function.Injective dir.child := by
  intro c d h
  have hcomponents := congrArg Path.components h
  exact List.singleton_inj.mp (List.append_cancel_left hcomponents)

/-- The files of a tree lie below its root. -/
lemma exists_components_of_mem_filesTo {depth : Nat} {dir file : Path} (h : file ∈ fs.filesTo cwd depth dir) :
    ∃ c cs, file.components = dir.components ++ c :: cs := by
  obtain ⟨place, hplace, hname⟩ := List.mem_flatMap.mp h
  obtain ⟨name, -, rfl⟩ := List.mem_map.mp hname
  obtain ⟨cs, hcs⟩ := exists_components_of_mem_treeTo hplace
  obtain ⟨c, ds, hds⟩ := List.exists_cons_of_ne_nil (show cs ++ [name] ≠ [] by simp)
  refine ⟨c, ds, ?_⟩
  rw [← hds, hcs, Path.child, List.append_assoc]

/-- A traversal comes to no file twice. -/
lemma nodup_filesTo (hwf : fs.WellFormed) (cwd : Path) (depth : Nat) (dir : Path) :
    (fs.filesTo cwd depth dir).Nodup := by
  induction depth generalizing dir with
  | zero => exact List.nodup_nil
  | succ depth ih =>
    cases hlist : fs.list cwd dir with
    | error e =>
      rw [filesTo_of_error hlist]
      exact List.nodup_nil
    | ok children =>
      obtain ⟨l, node, -, -, -, rfl⟩ := list_eq_ok_iff.mp hlist
      have hnames := hwf.nodup_children l
      have hothers : (fs.others cwd dir (fs.children l)).Nodup := hnames.sublist (List.filter_sublist.map _)
      have hentered : ((fs.entered cwd dir (fs.children l)).map (·.1)).Nodup :=
        hnames.sublist ((List.filter_sublist.trans List.filter_sublist).map _)
      rw [filesTo_succ hlist]
      refine List.nodup_append'.mpr ⟨hothers.map (child_injective dir), ?_, ?_⟩
      · refine List.nodup_flatMap.mpr ⟨fun child _ => ih (dir.child child.1), ?_⟩
        -- the name of the directory tells the files below it from those below another one
        refine (List.pairwise_map.mp hentered).imp fun {child other} hne => ?_
        intro file hfile hfile'
        obtain ⟨c, cs, hcs⟩ := exists_components_of_mem_filesTo hfile
        obtain ⟨d, ds, hds⟩ := exists_components_of_mem_filesTo hfile'
        have heq := hcs.symm.trans hds
        simp only [Path.child, List.append_assoc, List.cons_append, List.nil_append,
          List.append_cancel_left_eq, List.cons.injEq] at heq
        exact hne heq.1
      · intro file hfile hfile'
        obtain ⟨name, -, rfl⟩ := List.mem_map.mp hfile
        obtain ⟨child, -, hbelow⟩ := List.mem_flatMap.mp hfile'
        obtain ⟨c, cs, hcs⟩ := exists_components_of_mem_filesTo hbelow
        simp [Path.child] at hcs

end Counterpart.FileSystem
