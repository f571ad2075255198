import Counterpart.Proofs.FileSystem.Tree

/-!
# File systems with something removed

What can be found in a file system from which a location and all below it were removed can be found before that too,
at the same place.  Only what is missing may have been there.

* `resolveFrom_remove`: a way that does not end at something missing is the same;
* `look_remove`, `leadsTo_remove` and `read_remove`: so are looks;
* `list_remove`: a directory lists all its children but those that were removed.
-/

namespace Counterpart.FileSystem

variable {fs : FileSystem} {cwd p : Path} {l : Location}

/-! ## What is left -/

/-- Whether a location is left when another one is removed with all below it. -/
def isLeft (l m : Location) : Bool := !l.isPrefixOf m

lemma node?_remove_of_isLeft {m : Location} (h : isLeft l m = true) : (fs.remove l).node? m = fs.node? m := by
  obtain ⟨nodes⟩ := fs
  unfold remove node?
  dsimp only
  induction nodes with
  | nil => rfl
  | cons entry rest ih =>
    obtain ⟨k, node⟩ := entry
    by_cases hk : k = m
    · rw [List.filter_cons_of_pos (by rw [hk]; exact h), hk, List.lookup_cons_self, List.lookup_cons_self]
    · have hne : (m == k) = false := beq_eq_false_iff_ne.mpr (Ne.symm hk)
      rw [List.filter_cons, List.lookup_cons, hne]
      split
      · rw [List.lookup_cons, hne]
        exact ih
      · exact ih

/-- What is found when something was removed was found before. -/
lemma node?_of_node?_remove {m : Location} {node : Node} (h : (fs.remove l).node? m = some node) :
    fs.node? m = some node := by
  by_cases hprefix : l.isPrefixOf m = true
  · have hnone := node?_remove_of_prefix fs hprefix
    exact nomatch hnone.symm.trans h
  · rwa [node?_remove_of_isLeft (by rw [isLeft, eq_false_of_ne_true hprefix, Bool.not_false])] at h

@[simp]
lemma greatestName_remove (fs : FileSystem) (l : Location) : (fs.remove l).greatestName = fs.greatestName := rfl

@[simp]
lemma greatestPath_remove (fs : FileSystem) (l : Location) : (fs.remove l).greatestPath = fs.greatestPath := rfl

/-- The children that are left are those whose locations are. -/
lemma children_remove (fs : FileSystem) (l m : Location) :
    (fs.remove l).children m = (fs.children m).filter fun child => isLeft l (m ++ [child.1]) := by
  unfold remove children
  rw [List.filter_filterMap, List.filterMap_filter]
  refine List.filterMap_congr fun entry _ => ?_
  obtain ⟨k, node⟩ := entry
  dsimp only
  cases hlast : k.getLast? with
  | none => simp
  | some name =>
    by_cases hinit : k.dropLast = m
    · -- the child's own location is that of the entry
      have hk : k = m ++ [name] := by rw [← hinit, List.dropLast_append_getLast? name hlast]
      simp [hk, isLeft, Option.filter]
    · simp [hinit]

/-! ## Ways and looks -/

lemma resolveWith_remove {follow : Bool} {onLink onLink' : Location → List Component → Except Fault Location}
    (honLink : ∀ here cs, onLink' here cs ≠ .error .missing → onLink here cs = onLink' here cs) {here : Location}
    {cs : List Component} (h : (fs.remove l).resolveWith follow onLink' here cs ≠ .error .missing) :
    fs.resolveWith follow onLink here cs = (fs.remove l).resolveWith follow onLink' here cs := by
  induction cs generalizing here with
  | nil => rfl
  | cons c rest ih =>
    simp only [resolveWith] at h ⊢
    -- on the way nothing but entries that are left is met
    cases hhere : (fs.remove l).node? here with
    | none => simp [hhere] at h
    | some node =>
      rw [hhere] at h
      rw [node?_of_node?_remove hhere]
      dsimp only at h ⊢
      by_cases hdirectory : node.entry = .directory
      · by_cases hup : c = .up
        · simp only [hdirectory, hup, ne_eq, not_true_eq_false, if_false, if_true] at h ⊢
          exact ih h
        · simp only [hdirectory, hup, ne_eq, not_true_eq_false, if_false, greatestName_remove] at h ⊢
          by_cases hlong : exceeds fs.greatestName c.val = true
          · simp only [hlong, if_true]
          · simp only [hlong, Bool.false_eq_true, if_false] at h ⊢
            cases hnext : (fs.remove l).node? (here ++ [c]) with
            | none => simp [hnext] at h
            | some node' =>
              rw [hnext] at h
              rw [node?_of_node?_remove hnext]
              dsimp only at h ⊢
              split
              · rfl
              · next hdenied =>
                rw [if_neg hdenied] at h
                split
                · next target hentry =>
                  simp only [hentry] at h
                  split
                  · rfl
                  · next hlast =>
                    rw [if_neg hlast] at h
                    exact honLink _ _ h
                · next hentry =>
                  split at h
                  · next target hlink => exact absurd hlink (hentry target)
                  · exact ih h
      · simp [hdirectory]

/-- A way that does not end at something missing was the same before. -/
theorem resolveFrom_remove {follow : Bool} {links : Nat} {here : Location} {cs : List Component}
    (h : (fs.remove l).resolveFrom follow links here cs ≠ .error .missing) :
    fs.resolveFrom follow links here cs = (fs.remove l).resolveFrom follow links here cs := by
  induction links generalizing here cs with
  | zero => exact resolveWith_remove (fun _ _ _ => rfl) h
  | succ links ih => exact resolveWith_remove (fun _ _ hrest => ih hrest) h

/-- A look that does not miss its path gave the same before. -/
lemma look_remove (h : (fs.remove l).look cwd p ≠ .error (.refused .missing p)) :
    fs.look cwd p = (fs.remove l).look cwd p := by
  unfold look at h ⊢
  rw [resolve_eq] at h ⊢
  rw [resolve_eq]
  by_cases hnul : ((way cwd p).any fun c => c.val.contains '\x00') = true
  · rw [if_pos hnul, if_pos hnul]
    rfl
  · rw [if_neg hnul, greatestPath_remove] at h ⊢
    rw [if_neg hnul]
    by_cases hlong : exceeds fs.greatestPath p.text = true
    · simp only [hlong, if_true]
      rfl
    · simp only [hlong, Bool.false_eq_true, if_false] at h ⊢
      have hway : (fs.remove l).resolveFrom true greatestLinks [] (way cwd p) ≠ .error .missing := by
        intro hmissing
        rw [hmissing] at h
        exact h rfl
      rw [resolveFrom_remove hway]
      cases hresolve : (fs.remove l).resolveFrom true greatestLinks [] (way cwd p) with
      | error fault => rfl
      | ok m =>
        rw [hresolve] at h
        cases hnode : (fs.remove l).node? m with
        | none => simp [Except.mapError, bind, Except.bind, hnode, throw, throwThe, MonadExceptOf.throw] at h
        | some node => simp only [Except.mapError, bind, Except.bind, hnode, node?_of_node?_remove hnode]

lemma look_of_look_remove {found : Location × Node} (h : (fs.remove l).look cwd p = .ok found) :
    fs.look cwd p = .ok found := by
  rw [look_remove (by rw [h]; simp), h]

lemma leadsTo_remove {test : Entry → Bool} (h : (fs.remove l).leadsTo test cwd p ≠ .ok false) :
    leadsTo test fs cwd p = leadsTo test (fs.remove l) cwd p := by
  have hlook : (fs.remove l).look cwd p ≠ .error (.refused .missing p) := by
    intro hmissing
    unfold leadsTo at h
    rw [hmissing] at h
    exact h rfl
  unfold leadsTo
  rw [look_remove hlook]

/-- Where something is left, it can be read as before. -/
lemma read_remove (h : (fs.remove l).look cwd p ≠ .error (.refused .missing p)) :
    fs.read cwd p = (fs.remove l).read cwd p := by
  unfold read
  rw [look_remove h]

/-! ## Listings -/

/-- A directory that can be listed could be listed before, with those children more that were removed. -/
lemma list_remove {dir : Path} {children : List (Component × Node)} (h : (fs.remove l).list cwd dir = .ok children) :
    ∃ before isKept, fs.list cwd dir = .ok before ∧ children = before.filter isKept := by
  obtain ⟨m, node, hlook, hdirectory, hdenied, rfl⟩ := list_eq_ok_iff.mp h
  have hbefore := list_eq_ok_iff.mpr ⟨m, node, look_of_look_remove hlook, hdirectory, hdenied, rfl⟩
  exact ⟨_, _, hbefore, children_remove fs l m⟩

/-- Only of a link it has to be found out whether it counts as a directory. -/
lemma countsAsDirectory_of_not_isLink (fs fs' : FileSystem) {dir : Path} {child : Component × Node}
    (h : child.2.isLink = false) : fs'.countsAsDirectory cwd dir child = fs.countsAsDirectory cwd dir child := by
  unfold Node.isLink at h
  unfold countsAsDirectory childIsDirectory
  cases hentry : child.2.entry with
  | link target => simp [hentry] at h
  | file data => rfl
  | directory => rfl
  | special => rfl

/-- The directories that a tree enters are those of before that are left. -/
lemma entered_remove {dir : Path} (before : List (Component × Node)) (isKept : Component × Node → Bool) :
    (fs.remove l).entered cwd dir (before.filter isKept) = (fs.entered cwd dir before).filter isKept := by
  unfold entered
  simp only [List.filter_filter]
  refine List.filter_congr fun child _ => ?_
  cases hlink : child.2.isLink with
  | true => simp
  | false =>
    rw [countsAsDirectory_of_not_isLink fs (fs.remove l) hlink]
    simp [Bool.and_comm]

end Counterpart.FileSystem
