import Counterpart.Proofs.Framework.Candidates
import Counterpart.Proofs.Lookup.Results

/-!
# The header of a source

The header that a lookup gives is the first one there is: in the first directory that has one, the first in the order
of the listing.

* `Probe.find?_eq_some_iff` and `Probe.find?_eq_none_iff`: what a probe of several directories finds;
* `hasNoneIn_of_private`: a private header comes after all other places;
* `headerForSource_isFirst`: the lookup of a header.
-/

namespace Counterpart

/-! ## The first of several directories -/

namespace Probe

variable {probe : Probe} {fs : FileSystem} {cwd : Path}

/-- A child of a directory is what a probe looks for.  It turns out to be no directory, and its name is right. -/
structure Wants (probe : Probe) (fs : FileSystem) (cwd dir : Path) (child : Component × Node) : Prop where
  isNoDirectory : fs.childIsDirectory cwd dir child = .ok false
  role : probe.table.role (dir.child child.1).text = probe.role
  basename : probe.table.basename (dir.child child.1).text = probe.basename

/-- A directory has no child that a probe looks for; nor has it one if it cannot be listed. -/
def HasNoneIn (probe : Probe) (fs : FileSystem) (cwd dir : Path) : Prop :=
  ∀ children, fs.list cwd dir = .ok children → ∀ child ∈ children, ¬ probe.Wants fs cwd dir child

/-- A file is the first one in some directories that a probe looks for: the first in the listing of its directory, with
none in the directories before. -/
inductive IsFirstIn (probe : Probe) (fs : FileSystem) (cwd : Path) : List Path → Path → Prop
  | intro {before behind : List Path} {dir : Path} {earlier later : List (Component × Node)} {child : Component × Node}
      (hbefore : ∀ other ∈ before, probe.HasNoneIn fs cwd other)
      (hlist : fs.list cwd dir = .ok (earlier ++ child :: later))
      (hearlier : ∀ other ∈ earlier, ¬ probe.Wants fs cwd dir other) (hchild : probe.Wants fs cwd dir child) :
      IsFirstIn probe fs cwd (before ++ dir :: behind) (dir.child child.1)

/-- Whether a child is what a probe looks for. -/
def wants (probe : Probe) (fs : FileSystem) (cwd dir : Path) (child : Component × Node) : Bool :=
  (match fs.childIsDirectory cwd dir child with
    | .ok isDirectory => !isDirectory
    | .error _ => false) && probe.accepts (dir.child child.1)

lemma wants_iff {dir : Path} {child : Component × Node} :
    probe.wants fs cwd dir child = true ↔ probe.Wants fs cwd dir child := by
  unfold wants
  rw [Bool.and_eq_true, accepts_iff]
  constructor
  · intro ⟨hdirectory, hrole, hbasename⟩
    refine ⟨?_, hrole, hbasename⟩
    split at hdirectory
    · next isDirectory hchild => rw [hchild, (Bool.not_eq_true' isDirectory).mp hdirectory]
    · exact absurd hdirectory Bool.false_ne_true
  · intro ⟨hdirectory, hrole, hbasename⟩
    exact ⟨by simp [hdirectory], hrole, hbasename⟩

/-- The first file of a listing that a probe looks for. -/
lemma find?_filesIn {dir : Path} {children : List (Component × Node)} (h : fs.list cwd dir = .ok children) :
    (fs.filesIn cwd dir).find? probe.accepts
      = (children.find? (probe.wants fs cwd dir)).map fun child => dir.child child.1 := by
  unfold FileSystem.filesIn FileSystem.files
  rw [h]
  show List.find? _ (List.map _ _) = _
  rw [List.find?_map, List.find?_filter]
  refine congrArg (Option.map _) (congrArg (children.find? ·) (funext fun child => ?_))
  rw [Bool.decide_and, Bool.decide_eq_true, Bool.decide_eq_true]
  rfl

lemma find?_filesIn_eq_none_iff {dir : Path} :
    (fs.filesIn cwd dir).find? probe.accepts = none ↔ probe.HasNoneIn fs cwd dir := by
  unfold HasNoneIn
  cases hlist : fs.list cwd dir with
  | error e =>
    unfold FileSystem.filesIn FileSystem.files
    rw [hlist]
    simp [bind, Except.bind]
  | ok children => simp [find?_filesIn hlist, ← wants_iff]

lemma find?_filesIn_eq_some_iff {dir file : Path} :
    (fs.filesIn cwd dir).find? probe.accepts = some file ↔
      ∃ earlier child later, fs.list cwd dir = .ok (earlier ++ child :: later) ∧ dir.child child.1 = file ∧
        probe.Wants fs cwd dir child ∧ ∀ other ∈ earlier, ¬ probe.Wants fs cwd dir other := by
  cases hlist : fs.list cwd dir with
  | error e =>
    unfold FileSystem.filesIn FileSystem.files
    rw [hlist]
    simp [bind, Except.bind]
  | ok children =>
    rw [find?_filesIn hlist, Option.map_eq_some_iff]
    simp only [List.find?_eq_some_iff_append, Bool.not_eq_true', ← Bool.not_eq_true, wants_iff]
    constructor
    · rintro ⟨child, ⟨hchild, earlier, later, rfl, hearlier⟩, rfl⟩
      exact ⟨earlier, child, later, rfl, rfl, hchild, hearlier⟩
    · rintro ⟨earlier, child, later, hchildren, rfl, hchild, hearlier⟩
      exact ⟨child, ⟨hchild, earlier, later, Except.ok.inj hchildren, hearlier⟩, rfl⟩

/-- What a probe of several directories finds is the first file in them that it looks for. -/
theorem find?_eq_some_iff {dirs : List Path} {file : Path} :
    (dirs.flatMap (fs.filesIn cwd)).find? probe.accepts = some file ↔ probe.IsFirstIn fs cwd dirs file := by
  rw [List.find?_flatMap, List.findSome?_eq_some_iff]
  simp only [find?_filesIn_eq_some_iff, find?_filesIn_eq_none_iff]
  constructor
  · rintro ⟨before, dir, behind, rfl, ⟨earlier, child, later, hlist, rfl, hchild, hearlier⟩, hbefore⟩
    exact .intro hbefore hlist hearlier hchild
  · intro hfirst
    cases hfirst with
    | @intro before behind dir earlier later child hbefore hlist hearlier hchild =>
      exact ⟨before, dir, behind, rfl, ⟨earlier, child, later, hlist, rfl, hchild, hearlier⟩, hbefore⟩

/-- A probe of several directories finds nothing exactly if none of them has what it looks for. -/
theorem find?_eq_none_iff {dirs : List Path} :
    (dirs.flatMap (fs.filesIn cwd)).find? probe.accepts = none ↔ ∀ dir ∈ dirs, probe.HasNoneIn fs cwd dir := by
  rw [List.find?_flatMap, List.findSome?_eq_none_iff]
  simp only [find?_filesIn_eq_none_iff]

end Probe

namespace Lookup

variable {around : Surroundings} {table : ExtensionTable} {source : Path}

/-- If a header is below the private headers of the framework, neither the directory of its source nor one of public
headers has any. -/
lemma hasNoneIn_of_private {probe : Probe} {framework : Framework} {header : Path}
    (hframework : Framework.ofDirectory? source.parent = some framework)
    (hfirst : probe.IsFirstIn around.fs around.cwd (headerDirectories source) header)
    (hprivate : header.parent.IsAtOrBelow (framework.path.child Framework.privateFolder)) {dir : Path}
    (hdir : dir = source.parent ∨
      dir ∈ framework.headerDirectories ∧ dir.IsAtOrBelow (framework.path.child Framework.publicFolder)) :
    probe.HasNoneIn around.fs around.cwd dir := by
  have hdirectories := Framework.headerDirectories_eq hframework
  have hpublics := Framework.isAtOrBelow_of_mem_layouts hframework Framework.publicFolder
  have hprivates := Framework.isAtOrBelow_of_mem_layouts hframework Framework.privateFolder
  generalize framework.layouts Framework.publicFolder = publics at hdirectories hpublics
  generalize framework.layouts Framework.privateFolder = privates at hdirectories hprivates
  -- the directories of private headers are the last ones
  have hall : headerDirectories source = (source.parent :: publics) ++ privates := by
    unfold headerDirectories
    rw [hframework, List.cons_append, ← hdirectories]
  have hearly : dir ∈ source.parent :: publics := by
    rcases hdir with rfl | ⟨hmem, hbelow⟩
    · exact List.mem_cons_self
    · rw [hdirectories] at hmem
      rcases List.mem_append.mp hmem with hmem | hmem
      · exact List.mem_cons_of_mem _ hmem
      · exact absurd (Path.eq_of_isAtOrBelow_child hbelow (hprivates dir hmem)) (by decide)
  have hnotPrivate : ∀ other ∈ source.parent :: publics,
      ¬ other.IsAtOrBelow (framework.path.child Framework.privateFolder) := by
    intro other hother hbelow
    rcases List.mem_cons.mp hother with rfl | hother
    · exact absurd (Path.eq_of_isAtOrBelow_child (Framework.isAtOrBelow_sources hframework) hbelow) (by decide)
    · exact absurd (Path.eq_of_isAtOrBelow_child (hpublics other hother) hbelow) (by decide)
  generalize headerDirectories source = dirs at hfirst hall
  cases hfirst with
  | @intro before behind here earlier later child hbefore hlist hearlier hchild =>
    have hhere : here.IsAtOrBelow (framework.path.child Framework.privateFolder) := by
      simpa [Path.parent, Path.child] using hprivate
    have hbeforeHere : dir ∈ before := by
      rcases List.append_eq_append_iff.mp hall with ⟨rest, hpublic, hrest⟩ | ⟨rest, hbefore, -⟩
      · rcases List.cons_eq_append_iff.mp hrest with ⟨rfl, -⟩ | ⟨rest, rfl, -⟩
        · rwa [hpublic, List.append_nil] at hearly
        · exact absurd hhere (hnotPrivate here (by rw [hpublic]; exact List.mem_append_right _ List.mem_cons_self))
      · rw [hbefore]
        exact List.mem_append_left _ hearly
    exact hbefore dir hbeforeHere

/-- The header of a source is the first child of its own directory, or else of the header directories of its framework,
that turns out to be no directory and has the role of a header and the base name of the source; and there is none
exactly if no directory has such a child.  A private header is given only if there is neither a sibling nor a public
header. -/
theorem headerForSource_isFirst {arg : Argument} (hcwd : around.cwd.IsNulFree)
    (hsource : arg.require "source" around.cwd = .ok source) (table : ExtensionTable) :
    ∃ found, (headerForSource around table arg).result = .ok found ∧
      (∀ header, found = some header ↔
        (headerProbe table source).IsFirstIn around.fs around.cwd (headerDirectories source) header) ∧
      (found = none ↔ ∀ dir ∈ headerDirectories source, (headerProbe table source).HasNoneIn around.fs around.cwd dir) ∧
      ∀ header framework, found = some header → Framework.ofDirectory? source.parent = some framework →
        header.parent.IsAtOrBelow (framework.path.child Framework.privateFolder) →
        ∀ dir, dir = source.parent ∨
            dir ∈ framework.headerDirectories ∧ dir.IsAtOrBelow (framework.path.child Framework.publicFolder) →
          (headerProbe table source).HasNoneIn around.fs around.cwd dir := by
  have hresult := result_header table hcwd (Argument.isNulFree_of_require hcwd hsource)
  rw [← headerForSource_eq hsource table] at hresult
  refine ⟨_, hresult, fun header => Probe.find?_eq_some_iff, Probe.find?_eq_none_iff, ?_⟩
  intro header framework hfound hframework hprivate dir hdir
  exact hasNoneIn_of_private hframework (Probe.find?_eq_some_iff.mp hfound) hprivate hdir

/-- A source in a framework whose public headers cannot be listed. -/
def lockedHeaders : Surroundings where
  fs := ((FileSystem.empty.put (Path.ofText "/F/Sources/a.c".toList).components { entry := .file [] }).put
    (Path.ofText "/F/Headers".toList).components { entry := .directory, denied := true }).put
      (Path.ofText "/F/PrivateHeaders/a.h".toList).components { entry := .file [] }
  cwd := Path.root

/-- The private header is found. -/
theorem headerForSource_lockedHeaders :
    lockedHeaders.cwd.IsNulFree ∧
    (Argument.text "/F/Sources/a.c".toList).require "source" lockedHeaders.cwd
      = .ok (Path.ofText "/F/Sources/a.c".toList) ∧
    (headerForSource lockedHeaders .default (.text "/F/Sources/a.c".toList)).result
      = .ok (some (Path.ofText "/F/PrivateHeaders/a.h".toList)) ∧
    (headerProbe .default (Path.ofText "/F/Sources/a.c".toList)).HasNoneIn lockedHeaders.fs lockedHeaders.cwd
      (Path.ofText "/F/Headers".toList) := by
  have hcwd : lockedHeaders.cwd.IsNulFree := by
    unfold Path.IsNulFree
    decide
  have hsource : (Argument.text "/F/Sources/a.c".toList).require "source" lockedHeaders.cwd
      = .ok (Path.ofText "/F/Sources/a.c".toList) := rfl
  have hresult : (headerForSource lockedHeaders .default (.text "/F/Sources/a.c".toList)).result
      = .ok (some (Path.ofText "/F/PrivateHeaders/a.h".toList)) := by decide +kernel
  obtain ⟨found, hfound, -, -, hprivate⟩ := headerForSource_isFirst hcwd hsource .default
  obtain rfl : some (Path.ofText "/F/PrivateHeaders/a.h".toList) = found := Except.ok.inj (hresult.symm.trans hfound)
  refine ⟨hcwd, hsource, hresult, hprivate _ ⟨Path.ofText "/F".toList, "F".toList, [], []⟩ rfl (by decide +kernel)
    ⟨[], by decide +kernel⟩ _ (.inr ⟨by decide +kernel, [], by decide +kernel⟩)⟩

end Lookup

end Counterpart
