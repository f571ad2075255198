import Counterpart.Probe
import Counterpart.Proofs.FileSystem.Tree

/-!
# What a directory lists

Of the children of a directory those are listed that turn out to be no directories.  Most of them are regular files,
but not all.

* `mem_filesIn`: what is listed;
* `IsNamed.isNormal_of_mem_filesIn` and `IsNamed.isNulFree_of_mem_filesIn`: the paths that are listed are in order if
  the names in the file system are;
* `look_child_ne_link`: a look at a child follows links until there is none;
* `childIsDirectory_eq_false_iff`: what is no directory is a regular file, or it is irregular;
* `mem_filesIn_iff`: so that is what is listed.
-/

namespace Counterpart.FileSystem

variable {fs : FileSystem} {cwd dir file : Path} {child : Component × Node}

/-! ## Listings -/

/-- The files of a directory in listing order; none if it cannot be listed. -/
def filesIn (fs : FileSystem) (cwd dir : Path) : List Path :=
  match fs.files cwd dir with
  | .ok files => files
  | .error _ => []

/-- A listing succeeds for all paths without a NUL, and gives what can be looked at. -/
lemma listing_eq (fs : FileSystem) (hcwd : cwd.IsNulFree) (hdir : dir.IsNulFree) :
    ∃ notes, fs.listing cwd dir = .ok (fs.filesIn cwd dir, notes) := by
  have hnul : fs.files cwd dir ≠ .error .nul := files_ne_nul hcwd hdir
  unfold listing filesIn
  cases hfiles : fs.files cwd dir with
  | ok files => exact ⟨[], rfl⟩
  | error e =>
    cases e with
    | nul => exact absurd hfiles hnul
    | refused fault path => exact ⟨_, rfl⟩

/-- The files in a directory are its children that are seen not to be directories. -/
lemma mem_filesIn :
    file ∈ fs.filesIn cwd dir ↔ ∃ children, fs.list cwd dir = .ok children ∧
      ∃ child ∈ children, fs.childIsDirectory cwd dir child = .ok false ∧ dir.child child.1 = file := by
  unfold filesIn files
  cases hlist : fs.list cwd dir with
  | error e => simp [bind, Except.bind]
  | ok children =>
    simp only [bind, Except.bind, pure, Except.pure, Except.ok.injEq, exists_eq_left']
    constructor
    · intro hmem
      obtain ⟨child, hmem, hfile⟩ := List.mem_map.mp hmem
      obtain ⟨hchild, hkept⟩ := List.mem_filter.mp hmem
      refine ⟨child, hchild, ?_, hfile⟩
      split at hkept
      · next isDirectory hdirectory => rw [hdirectory, (Bool.not_eq_true' isDirectory).mp hkept]
      · exact absurd hkept Bool.false_ne_true
    · intro ⟨child, hchild, hdirectory, hfile⟩
      refine List.mem_map.mpr ⟨child, List.mem_filter.mpr ⟨hchild, ?_⟩, hfile⟩
      rw [hdirectory]
      rfl

/-- The files in a directory have it as their parent. -/
lemma parent_of_mem_filesIn (h : file ∈ fs.filesIn cwd dir) : file.parent = dir := by
  obtain ⟨_, _, child, _, _, rfl⟩ := mem_filesIn.mp h
  simp [Path.parent, Path.child]

/-! ## Names -/

/-- The locations of a file system are written with names: none is a double dot, and none holds a NUL. -/
structure IsNamed (fs : FileSystem) : Prop where
  up_notMem : ∀ entry ∈ fs.nodes, Component.up ∉ entry.1
  nulFree : ∀ entry ∈ fs.nodes, ∀ c ∈ entry.1, '\x00' ∉ c.val

/-- What is listed has the name of a child. -/
lemma exists_name_of_mem_filesIn (h : file ∈ fs.filesIn cwd dir) :
    ∃ name, file = dir.child name ∧ ∃ entry ∈ fs.nodes, name ∈ entry.1 := by
  obtain ⟨children, hlist, child, hchild, -, rfl⟩ := mem_filesIn.mp h
  obtain ⟨l, -, -, -, -, rfl⟩ := list_eq_ok_iff.mp hlist
  exact ⟨child.1, rfl, _, mem_children.mp hchild, List.mem_append_right l List.mem_cons_self⟩

/-- The files in a normal directory have normal paths. -/
lemma IsNamed.isNormal_of_mem_filesIn (h : fs.IsNamed) (hdir : dir.IsNormal) (hfile : file ∈ fs.filesIn cwd dir) :
    file.IsNormal := by
  obtain ⟨name, rfl, entry, hentry, hname⟩ := exists_name_of_mem_filesIn hfile
  refine ⟨hdir.absolute, ?_⟩
  rw [Path.child, List.mem_append, List.mem_singleton, not_or]
  refine ⟨hdir.up_notMem, fun hup => h.up_notMem entry hentry ?_⟩
  rwa [hup]

/-- The files in a directory without a NUL have none in their paths. -/
lemma IsNamed.isNulFree_of_mem_filesIn (h : fs.IsNamed) (hdir : dir.IsNulFree) (hfile : file ∈ fs.filesIn cwd dir) :
    file.IsNulFree := by
  obtain ⟨name, rfl, entry, hentry, hname⟩ := exists_name_of_mem_filesIn hfile
  exact Path.isNulFree_child hdir (h.nulFree entry hentry name hname)

/-! ## Looks behind links -/

/-- What is found at a location is no link. -/
def IsSettled (fs : FileSystem) (l : Location) : Prop :=
  ∀ node, fs.node? l = some node → node.isLink = false

/-- A location is reached through directories: no location above it is a link. -/
def IsReached (fs : FileSystem) (l : Location) : Prop := ∀ m, m <+: l → m ≠ l → fs.IsSettled m

/-- A location is settled when what is there is no link. -/
lemma isSettled_of_node {l : Location} {node : Node} (h : fs.node? l = some node) (hlink : node.isLink = false) :
    fs.IsSettled l := by
  intro node' h'
  rwa [← Option.some.inj (h.symm.trans h')]

/-- What lies above a directory that was reached is no link, nor is the directory. -/
lemma IsReached.settled {l m : Location} (h : fs.IsReached l) (hl : fs.IsSettled l) (hm : m <+: l) :
    fs.IsSettled m := by
  by_cases heq : m = l
  · rwa [heq]
  · exact h m hm heq

/-- What is above a location that is reached and settled is so, too. -/
lemma IsReached.of_settled {l m : Location} (h : fs.IsReached l) (hl : fs.IsSettled l) (hm : m <+: l) :
    fs.IsReached m := fun _ hk _ => h.settled hl (hk.trans hm)

/-- What is below a location that is reached and settled is reached. -/
lemma isReached_append {l : Location} {c : Component} (h : fs.IsReached l) (hl : fs.IsSettled l) :
    fs.IsReached (l ++ [c]) := by
  intro m hm hne
  rcases List.prefix_concat_iff.mp hm with rfl | hm
  · exact absurd rfl hne
  · exact h.settled hl hm

/-- A way on which links are followed leads to no link, if its beginning is none. -/
def LeadsToNoLink (fs : FileSystem) (way : Location → List Component → Except Fault Location) : Prop :=
  ∀ here cs l, fs.IsReached here → fs.IsSettled here → way here cs = .ok l → fs.IsSettled l

/-- Following links all along the way leads to no link, if following one does. -/
lemma leadsToNoLink_resolveWith {onLink : Location → List Component → Except Fault Location}
    (honLink : fs.LeadsToNoLink onLink) : fs.LeadsToNoLink (fs.resolveWith true onLink) := by
  intro here cs l hreached hsettled h
  induction cs generalizing here with
  | nil =>
    obtain rfl : here = l := by simpa [resolveWith] using h
    exact hsettled
  | cons c rest ih =>
    -- what lies above a place that was reached has been reached too, and is no link
    have habove {m : Location} (hm : m <+: here) : fs.IsReached m ∧ fs.IsSettled m :=
      ⟨hreached.of_settled hsettled hm, hreached.settled hsettled hm⟩
    rcases resolveWith_cons fs onLink here c with
      ⟨next, hnext, hstep⟩ | ⟨base, target, hbase, hlink⟩ | ⟨fault, hfault⟩
    · have hplace : fs.IsReached next ∧ fs.IsSettled next := by
        rcases hnext with rfl | ⟨rfl, node, hnode, hnoLink⟩
        · exact habove (List.dropLast_prefix here)
        · exact ⟨isReached_append hreached hsettled, isSettled_of_node hnode hnoLink⟩
      rw [hstep] at h
      exact ih next hplace.1 hplace.2 h
    · have hplace : fs.IsReached base ∧ fs.IsSettled base := by
        rcases hbase with rfl | rfl
        · exact habove List.nil_prefix
        · exact ⟨hreached, hsettled⟩
      rw [hlink] at h
      exact honLink base _ l hplace.1 hplace.2 h
    · rw [hfault] at h
      exact absurd h (by simp)

/-- Following links leads to no link, however many are followed. -/
lemma leadsToNoLink_resolveFrom (links : Nat) : fs.LeadsToNoLink (fs.resolveFrom true links) := by
  induction links with
  | zero => exact leadsToNoLink_resolveWith fun _ _ _ _ _ h => nomatch h
  | succ links ih => exact leadsToNoLink_resolveWith ih

/-- A way that goes on from a place has come to a directory there. -/
lemma isSettled_of_resolveFrom {links : Nat} {here l : Location} {c : Component} {rest : List Component}
    (h : fs.resolveFrom true links here (c :: rest) = .ok l) : fs.IsSettled here := by
  have hstep (onLink : Location → List Component → Except Fault Location)
      (h : fs.resolveWith true onLink here (c :: rest) = .ok l) : fs.IsSettled here := by
    unfold resolveWith at h
    split at h
    · exact nomatch h
    · next node hnode =>
      split at h
      · exact nomatch h
      · next hdirectory => exact isSettled_of_node hnode (by simp [Node.isLink, not_not.mp hdirectory])
  cases links with
  | zero => exact hstep _ h
  | succ links => exact hstep _ h

/-- A look at a child of a directory follows links until there is none. -/
lemma look_child_ne_link {l : Location} {node : Node} {name : Component}
    (h : fs.look cwd (dir.child name) = .ok (l, node)) : node.isLink = false := by
  obtain ⟨-, hway, hnode⟩ := look_eq_ok h
  have hroot : fs.IsReached [] := fun m hm hne => absurd (List.prefix_nil.mp hm) hne
  have hsettled : fs.IsSettled [] := by
    obtain ⟨c, rest, hcons⟩ := List.exists_cons_of_ne_nil (l := way cwd (dir.child name)) (by simp [way_child])
    rw [hcons] at hway
    exact isSettled_of_resolveFrom hway
  exact leadsToNoLink_resolveFrom _ _ _ _ hroot hsettled hway node hnode

/-! ## Children that are no directories -/

/-- A child of a directory is a regular file, links followed. -/
inductive IsRegular (fs : FileSystem) (cwd dir : Path) (child : Component × Node) : Prop
  | file {data : Bytes} (h : child.2.entry = .file data)
  | link {target : Path} (h : child.2.entry = .link target) {l : Location} {node : Node} {data : Bytes}
      (hlook : fs.look cwd (dir.child child.1) = .ok (l, node)) (hfile : node.entry = .file data)

/-- A child of a directory is neither a regular file nor a directory: it is something special, links followed, or
a link to nothing. -/
inductive IsIrregular (fs : FileSystem) (cwd dir : Path) (child : Component × Node) : Prop
  | special (h : child.2.entry = .special)
  | linkToSpecial {target : Path} (h : child.2.entry = .link target) {l : Location} {node : Node}
      (hlook : fs.look cwd (dir.child child.1) = .ok (l, node)) (hspecial : node.entry = .special)
  | linkToNothing {target : Path} (h : child.2.entry = .link target)
      (hlook : fs.look cwd (dir.child child.1) = .error (.refused .missing (dir.child child.1)))

/-- A child that turns out to be no directory is a regular file, or it is irregular. -/
lemma childIsDirectory_eq_false_iff :
    fs.childIsDirectory cwd dir child = .ok false ↔
      fs.IsRegular cwd dir child ∨ fs.IsIrregular cwd dir child := by
  unfold childIsDirectory
  cases hentry : child.2.entry with
  | file data => exact ⟨fun _ => .inl (.file hentry), fun _ => rfl⟩
  | special => exact ⟨fun _ => .inr (.special hentry), fun _ => rfl⟩
  | directory =>
    refine ⟨fun h => absurd h (by simp), fun h => ?_⟩
    rcases h with h | h <;> cases h <;> simp_all
  | link target =>
    constructor
    · intro h
      dsimp only at h
      split at h
      · next l node hlook =>
        have hdirectory : node.entry ≠ .directory := by simpa using h
        have hlink := look_child_ne_link hlook
        cases hnode : node.entry with
        | file data => exact .inl (.link hentry hlook hnode)
        | special => exact .inr (.linkToSpecial hentry hlook hnode)
        | directory => exact absurd hnode hdirectory
        | link target' => simp [Node.isLink, hnode] at hlink
      · next path hlook =>
        rcases look_eq_error hlook with ⟨hnul, -⟩ | ⟨fault, hfault, -⟩
        · exact absurd hnul (by simp)
        · -- the fault is about the child itself
          obtain ⟨-, rfl⟩ := LookError.refused.inj hfault
          exact .inr (.linkToNothing hentry hlook)
      · exact absurd h (by simp)
    · intro h
      rcases h with h | h <;> cases h <;> simp_all

/-- A path is that of a regular file in a directory, links followed. -/
def HasRegular (fs : FileSystem) (cwd dir file : Path) : Prop :=
  ∃ children, fs.list cwd dir = .ok children ∧
    ∃ child ∈ children, fs.IsRegular cwd dir child ∧ dir.child child.1 = file

/-- A path is that of something in a directory that is neither a regular file nor a directory. -/
def HasIrregular (fs : FileSystem) (cwd dir file : Path) : Prop :=
  ∃ children, fs.list cwd dir = .ok children ∧
    ∃ child ∈ children, fs.IsIrregular cwd dir child ∧ dir.child child.1 = file

/-- A directory lists its regular files, and what is irregular in it. -/
lemma mem_filesIn_iff :
    file ∈ fs.filesIn cwd dir ↔ fs.HasRegular cwd dir file ∨ fs.HasIrregular cwd dir file := by
  unfold HasRegular HasIrregular
  rw [mem_filesIn]
  simp only [childIsDirectory_eq_false_iff]
  constructor
  · intro ⟨children, hlist, child, hchild, hkind, hfile⟩
    exact hkind.imp (fun h => ⟨children, hlist, child, hchild, h, hfile⟩)
      (fun h => ⟨children, hlist, child, hchild, h, hfile⟩)
  · intro h
    rcases h with ⟨children, hlist, child, hchild, h, hfile⟩ | ⟨children, hlist, child, hchild, h, hfile⟩
    · exact ⟨children, hlist, child, hchild, .inl h, hfile⟩
    · exact ⟨children, hlist, child, hchild, .inr h, hfile⟩

end Counterpart.FileSystem
