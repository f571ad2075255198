import Counterpart.Proofs.FileSystem.Access

/-!
# Directory trees

The tree below a directory is the directory itself, with its files, and then the trees below those of its
children that are directories and no links.

* `resolveFrom_append`: a way is gone in two parts, the second with the links that are left;
* `look_child`: a directory in a directory lies one name deeper;
* `exists_components_of_mem_treeTo`: the directories of a tree lie at its root or below it;
* `IsDeepEnough.child` and `list_ne_ok_of_isDeepEnough_zero`: a bound on the depth that exceeds what lies below a
  directory has one to spare for each level.
-/

namespace Counterpart.FileSystem

variable {fs : FileSystem} {cwd : Path}

/-- A file system in which every location comes up once, and is written with names alone. -/
structure WellFormed (fs : FileSystem) : Prop where
  nodup : (fs.nodes.map (·.1)).Nodup
  up_notMem : ∀ entry ∈ fs.nodes, Component.up ∉ entry.1

lemma WellFormed.node?_of_mem (h : fs.WellFormed) {l : Location} {node : Node} (hmem : (l, node) ∈ fs.nodes) :
    fs.node? l = some node := by
  obtain ⟨before, behind, hnodes⟩ := List.append_of_mem hmem
  refine List.lookup_eq_some_iff.mpr ⟨before, behind, hnodes, fun entry hentry => ?_⟩
  -- an earlier entry for the same location would be a second one
  have hnodup := h.nodup
  rw [hnodes, List.map_append, List.map_cons] at hnodup
  rw [bne_iff_ne]
  intro heq
  have hdisjoint := (List.nodup_append.mp hnodup).2.2 entry.1 (List.mem_map_of_mem hentry) l List.mem_cons_self
  exact hdisjoint heq.symm

lemma mem_children {l : Location} {name : Component} {node : Node} :
    (name, node) ∈ fs.children l ↔ (l ++ [name], node) ∈ fs.nodes := by
  unfold children
  rw [List.mem_filterMap]
  constructor
  · intro ⟨⟨m, node'⟩, hmem, hchild⟩
    dsimp only at hchild
    split at hchild
    · next name' hlast =>
      split at hchild
      · next hinit =>
        simp only [Option.some.injEq, Prod.mk.injEq] at hchild
        obtain ⟨rfl, rfl⟩ := hchild
        rw [← hinit, List.dropLast_append_getLast? name' hlast]
        exact hmem
      · exact absurd hchild (by simp)
    · exact absurd hchild (by simp)
  · intro hmem
    exact ⟨_, hmem, by simp⟩

/-! ## Ways in two parts -/

/-- One component of a way, links followed: it leads back, or on to what is no link; or it comes to a link, which is
followed from there or from the root; or it leads nowhere.  What stands behind it does not matter. -/
lemma resolveWith_cons (fs : FileSystem) (onLink : Location → List Component → Except Fault Location)
    (here : Location) (c : Component) :
    (∃ next, (next = here.dropLast ∨ next = here ++ [c] ∧ ∃ node, fs.node? next = some node ∧ node.isLink = false) ∧
      ∀ rest, fs.resolveWith true onLink here (c :: rest) = fs.resolveWith true onLink next rest) ∨
    (∃ base target, (base = [] ∨ base = here) ∧
      ∀ rest, fs.resolveWith true onLink here (c :: rest) = onLink base (target ++ rest)) ∨
    ∃ fault, ∀ rest, fs.resolveWith true onLink here (c :: rest) = .error fault := by
  simp only [resolveWith]
  cases hhere : fs.node? here with
  | none => exact .inr (.inr ⟨.missing, fun _ => rfl⟩)
  | some node =>
    by_cases hdirectory : node.entry = .directory
    · by_cases hup : c = .up
      · exact .inl ⟨here.dropLast, .inl rfl, fun _ => by simp [hdirectory, hup]⟩
      · by_cases hlong : exceeds fs.greatestName c.val = true
        · exact .inr (.inr ⟨.nameTooLong, fun _ => by simp [hdirectory, hup, hlong]⟩)
        · cases hnext : fs.node? (here ++ [c]) with
          | none => exact .inr (.inr ⟨.missing, fun _ => by simp [hdirectory, hup, hlong]⟩)
          | some node' =>
            have honward (h : node'.isLink = false) :
                here ++ [c] = here ++ [c] ∧ ∃ node, fs.node? (here ++ [c]) = some node ∧ node.isLink = false :=
              ⟨rfl, node', hnext, h⟩
            by_cases hdenied : node'.statDenied = true
            · exact .inr (.inr ⟨.denied, fun _ => by simp [hdirectory, hup, hlong, hdenied]⟩)
            · cases hentry : node'.entry with
              | link target =>
                have hbase : (if target.isAbsolute then [] else here) = [] ∨
                    (if target.isAbsolute then [] else here) = here := by
                  by_cases habsolute : target.isAbsolute = true <;> simp [habsolute]
                exact .inr (.inl ⟨_, target.components, hbase,
                  fun _ => by simp [hdirectory, hup, hlong, hdenied, hentry]⟩)
              | file data =>
                exact .inl ⟨here ++ [c], .inr (honward (by simp [Node.isLink, hentry])),
                  fun _ => by simp [hdirectory, hup, hlong, hdenied, hentry]⟩
              | directory =>
                exact .inl ⟨here ++ [c], .inr (honward (by simp [Node.isLink, hentry])),
                  fun _ => by simp [hdirectory, hup, hlong, hdenied, hentry]⟩
              | special =>
                exact .inl ⟨here ++ [c], .inr (honward (by simp [Node.isLink, hentry])),
                  fun _ => by simp [hdirectory, hup, hlong, hdenied, hentry]⟩
    · exact .inr (.inr ⟨.notDirectory, fun _ => by simp [hdirectory]⟩)

lemma resolveWith_append (links : Nat) {onLink : Location → List Component → Except Fault Location}
    (honLink : ∀ here cs l, onLink here cs = .ok l →
      ∃ links', ∀ ds, onLink here (cs ++ ds) = fs.resolveFrom true links' l ds)
    (hself : fs.resolveWith true onLink = fs.resolveFrom true links)
    {here : Location} {cs : List Component} {l : Location} (h : fs.resolveWith true onLink here cs = .ok l) :
    ∃ links', ∀ ds, fs.resolveWith true onLink here (cs ++ ds) = fs.resolveFrom true links' l ds := by
  induction cs generalizing here with
  | nil =>
    obtain rfl : here = l := by simpa [resolveWith] using h
    exact ⟨links, fun ds => by rw [hself, List.nil_append]⟩
  | cons c rest ih =>
    rcases resolveWith_cons fs onLink here c with
      ⟨next, -, hnext⟩ | ⟨base, target, -, hlink⟩ | ⟨fault, hfault⟩
    · rw [hnext] at h
      obtain ⟨links', hrest⟩ := ih h
      exact ⟨links', fun ds => by rw [List.cons_append, hnext, hrest]⟩
    · -- the link is followed with what stands behind it, so the second part of the way may be added there
      rw [hlink] at h
      obtain ⟨links', hrest⟩ := honLink _ _ _ h
      exact ⟨links', fun ds => by rw [List.cons_append, hlink, ← List.append_assoc, hrest]⟩
    · rw [hfault] at h
      exact absurd h (by simp)

/-- A way is gone in two parts, the second with the links that are left. -/
lemma resolveFrom_append {links : Nat} {here : Location} {cs : List Component} {l : Location}
    (h : fs.resolveFrom true links here cs = .ok l) :
    ∃ links', ∀ ds, fs.resolveFrom true links here (cs ++ ds) = fs.resolveFrom true links' l ds := by
  induction links generalizing here cs l with
  | zero => exact resolveWith_append 0 (fun _ _ _ hlink => absurd hlink (by simp)) rfl h
  | succ links ih => exact resolveWith_append (links + 1) (fun _ _ _ hlink => ih hlink) rfl h

/-- A directory in a directory lies one name deeper. -/
lemma resolveFrom_child (hwf : fs.WellFormed) {links : Nat} {l m : Location} {name : Component} {node : Node}
    (hchild : (name, node) ∈ fs.children l) (hlink : node.isLink = false)
    (h : fs.resolveFrom true links l [name] = .ok m) : m = l ++ [name] := by
  have hmem := mem_children.1 hchild
  -- no entry of a file system is called like the way up
  have hname : name ≠ .up := by
    intro hup
    exact hwf.up_notMem _ hmem (by rw [hup]; exact List.mem_append_right _ List.mem_cons_self)
  have hstep (onLink : Location → List Component → Except Fault Location)
      (h : fs.resolveWith true onLink l [name] = .ok m) : m = l ++ [name] := by
    simp only [resolveWith, hwf.node?_of_mem hmem, if_neg hname] at h
    unfold Node.isLink at hlink
    grind
  cases links with
  | zero => exact hstep _ h
  | succ links => exact hstep _ h

/-! ## Trees -/

lemma way_child (cwd dir : Path) (name : Component) : way cwd (dir.child name) = way cwd dir ++ [name] := by
  unfold way Path.join
  have habsolute : (dir.child name).isAbsolute = dir.isAbsolute := rfl
  rw [habsolute]
  by_cases hdir : dir.isAbsolute = true
  · rw [if_pos hdir, if_pos hdir]
    rfl
  · rw [if_neg hdir, if_neg hdir, List.append_assoc]
    rfl

lemma length_le_depth {l : Location} {node : Node} (h : (l, node) ∈ fs.nodes) : l.length ≤ fs.depth := by
  -- the maximum over a list is at least what it begins with, and every length in the list
  have hfold : ∀ (nodes : List (Location × Node)) (n : Nat),
      n ≤ nodes.foldl (fun n entry => max n entry.1.length) n ∧
        ((l, node) ∈ nodes → l.length ≤ nodes.foldl (fun n entry => max n entry.1.length) n) := by
    intro nodes
    induction nodes with
    | nil => intro n; exact ⟨Nat.le_refl n, fun hmem => absurd hmem List.not_mem_nil⟩
    | cons entry rest ih =>
      intro n
      obtain ⟨hmax, hrest⟩ := ih (max n entry.1.length)
      refine ⟨Nat.le_trans (Nat.le_max_left _ _) hmax, fun hmem => ?_⟩
      rcases List.mem_cons.mp hmem with heq | hmem
      · rw [← heq] at hmax ⊢
        exact Nat.le_trans (Nat.le_max_right _ _) hmax
      · exact hrest hmem
  exact (hfold fs.nodes 0).2 h

/-- The children of a directory that its tree enters. -/
def entered (fs : FileSystem) (cwd dir : Path) (children : List (Component × Node)) : List (Component × Node) :=
  (children.filter (fs.countsAsDirectory cwd dir)).filter fun child => !child.2.isLink

/-- The children of a directory that are files in its tree. -/
def others (fs : FileSystem) (cwd dir : Path) (children : List (Component × Node)) : List Component :=
  (children.filter fun child => !fs.countsAsDirectory cwd dir child).map (·.1)

lemma treeTo_succ (depth : Nat) (dir : Path) :
    fs.treeTo cwd (depth + 1) dir =
      match fs.list cwd dir with
      | .error _ => []
      | .ok children => (dir, fs.others cwd dir children) ::
          (fs.entered cwd dir children).flatMap fun child => fs.treeTo cwd depth (dir.child child.1) := by
  rw [treeTo]
  cases fs.list cwd dir with
  | error e => rfl
  | ok children =>
    simp only [List.partition_eq_filter_filter]
    rfl

/-- The directories of a tree lie at its root or below it. -/
lemma exists_components_of_mem_treeTo {depth : Nat} {dir : Path} {place : Path × List Component}
    (h : place ∈ fs.treeTo cwd depth dir) : ∃ cs, place.1 = { dir with components := dir.components ++ cs } := by
  induction depth generalizing dir with
  | zero => exact absurd h List.not_mem_nil
  | succ depth ih =>
    rw [treeTo_succ] at h
    cases hlist : fs.list cwd dir with
    | error e =>
      rw [hlist] at h
      exact absurd h List.not_mem_nil
    | ok children =>
      rw [hlist] at h
      rcases List.mem_cons.mp h with rfl | h
      · exact ⟨[], by rw [List.append_nil]⟩
      · obtain ⟨child, -, hplace⟩ := List.mem_flatMap.mp h
        obtain ⟨cs, hcs⟩ := ih hplace
        exact ⟨child.1 :: cs, by rw [hcs, Path.child, List.append_assoc, List.singleton_append]⟩

/-- A directory that can be listed and lies in one that can be listed lies one name deeper. -/
lemma look_child (hwf : fs.WellFormed) {dir : Path} {l m : Location} {node node' : Node} {child : Component × Node}
    (hdir : fs.look cwd dir = .ok (l, node)) (hchild : child ∈ fs.entered cwd dir (fs.children l))
    (h : fs.look cwd (dir.child child.1) = .ok (m, node')) : m = l ++ [child.1] := by
  obtain ⟨-, hway, -⟩ := look_eq_ok hdir
  obtain ⟨-, hchildWay, -⟩ := look_eq_ok h
  obtain ⟨hmem, hlink⟩ := List.mem_filter.mp hchild
  obtain ⟨links, hrest⟩ := resolveFrom_append hway
  rw [way_child, hrest] at hchildWay
  exact resolveFrom_child hwf (List.mem_filter.mp hmem).1 (by simpa using hlink) hchildWay

/-- A bound exceeds all that lies below a directory. -/
def IsDeepEnough (fs : FileSystem) (cwd : Path) (depth : Nat) (dir : Path) : Prop :=
  ∀ l node, fs.look cwd dir = .ok (l, node) → fs.depth < depth + l.length

lemma IsDeepEnough.child (hwf : fs.WellFormed) {depth : Nat} {dir : Path} {children : List (Component × Node)}
    (h : fs.IsDeepEnough cwd (depth + 1) dir) (hlist : fs.list cwd dir = .ok children) {child : Component × Node}
    (hchild : child ∈ fs.entered cwd dir children) : fs.IsDeepEnough cwd depth (dir.child child.1) := by
  obtain ⟨l, node, hlook, -, -, rfl⟩ := list_eq_ok_iff.mp hlist
  intro m node' hm
  have hbound := h l node hlook
  rw [look_child hwf hlook hchild hm, List.length_append, List.length_singleton]
  omega

lemma list_ne_ok_of_isDeepEnough_zero {dir : Path} (h : fs.IsDeepEnough cwd 0 dir)
    (children : List (Component × Node)) : fs.list cwd dir ≠ .ok children := by
  intro hlist
  obtain ⟨l, node, hlook, -⟩ := list_eq_ok_iff.mp hlist
  have hbound := h l node hlook
  have hdepth := length_le_depth (mem_of_node? (look_eq_ok hlook).2.2)
  omega

end Counterpart.FileSystem
