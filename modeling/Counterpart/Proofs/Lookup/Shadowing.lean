import Counterpart.Proofs.Lookup.Headers

/-!
# What is listed and what is found

A probe takes whatever its directories list.  That is every regular file in them, but other things too, and one of
those may stand before a regular file of the same base name.

* `Probe.finds_find?`: what a probe finds is a regular file, or something irregular that stands before all others;
* `lookups_findUnlessShadowed`: so it is with the lookups.
-/

namespace Counterpart

/-! ## Probes -/

namespace Probe

variable {probe : Probe} {fs : FileSystem} {cwd : Path} {dirs : List Path}

/-- What a probe of some directories comes to: the first path in them of the right role and base name.  If it is that
of a regular file, all is well; if it is irregular, it shadows the regular files behind it. -/
inductive Finds (probe : Probe) (fs : FileSystem) (cwd : Path) (dirs : List Path) : Option Path → Prop
  | regular {dir file : Path} (hfirst : probe.IsFirstIn fs cwd dirs file) (hdir : dir ∈ dirs)
      (h : fs.HasRegular cwd dir file) : Finds probe fs cwd dirs (some file)
  | irregular {dir file : Path} (hfirst : probe.IsFirstIn fs cwd dirs file) (hdir : dir ∈ dirs)
      (h : fs.HasIrregular cwd dir file) : Finds probe fs cwd dirs (some file)
  | nothing (hnone : ∀ dir ∈ dirs, probe.HasNoneIn fs cwd dir) : Finds probe fs cwd dirs none

/-- What is found in some directories is regular or irregular. -/
lemma finds_find? (probe : Probe) (fs : FileSystem) (cwd : Path) (dirs : List Path) :
    probe.Finds fs cwd dirs ((dirs.flatMap (fs.filesIn cwd)).find? probe.accepts) := by
  cases hfind : (dirs.flatMap (fs.filesIn cwd)).find? probe.accepts with
  | none => exact .nothing (find?_eq_none_iff.mp hfind)
  | some file =>
    have hfirst := find?_eq_some_iff.mp hfind
    obtain ⟨dir, hdir, hlisted⟩ := List.mem_flatMap.mp (List.mem_of_find?_eq_some hfind)
    rcases FileSystem.mem_filesIn_iff.mp hlisted with hregular | hirregular
    · exact .regular hfirst hdir hregular
    · exact .irregular hfirst hdir hirregular

end Probe

/-! ## Lookups -/

namespace Lookup

variable {around : Surroundings} {arg projectArg : Argument} {file project : Path} {name name' : String}

/-- A directory lists its regular files, and what is irregular in it.  So what the lookup of a header finds is a regular
file unless something irregular stands before it, and so is the sibling that the lookup of a source finds. -/
theorem lookups_findUnlessShadowed (hcwd : around.cwd.IsNulFree) (hfile : arg.require name around.cwd = .ok file)
    (hproject : projectArg.require name' around.cwd = .ok project) (table : ExtensionTable)
    (scanner : Option Scanner) (limit : Option TimeLimit) :
    (∀ dir listed, listed ∈ around.fs.filesIn around.cwd dir ↔
      around.fs.HasRegular around.cwd dir listed ∨ around.fs.HasIrregular around.cwd dir listed) ∧
    (∀ probe dir, dir.IsNulFree → ∃ found notes,
      Probe.run probe around.fs around.cwd dir = .ok (found, notes) ∧ probe.Finds around.fs around.cwd [dir] found) ∧
    (∃ header, (headerForSource around table arg).result = .ok header ∧
      (headerProbe table file).Finds around.fs around.cwd (headerDirectories file) header) ∧
    (∃ sibling, (sourceProbe table file).Finds around.fs around.cwd [file.parent] sibling ∧
      ∀ source, sibling = some source →
        (sourceForHeader around table scanner limit arg projectArg).result = .ok (some source)) := by
  have hnul : file.IsNulFree := Argument.isNulFree_of_require hcwd hfile
  refine ⟨fun dir listed => FileSystem.mem_filesIn_iff, ?_, ?_, ?_⟩
  · intro probe dir hdir
    obtain ⟨notes, hrun⟩ := probe.run_eq around.fs hcwd hdir
    have hfinds := Probe.finds_find? probe around.fs around.cwd [dir]
    rw [List.flatMap_singleton] at hfinds
    exact ⟨_, notes, hrun, hfinds⟩
  · rw [headerForSource_eq hfile, result_header table hcwd hnul]
    exact ⟨_, rfl, Probe.finds_find? _ _ _ _⟩
  · refine ⟨_, Probe.finds_find? _ _ _ _, fun source hsource => ?_⟩
    rw [List.flatMap_singleton] at hsource
    rw [sourceForHeader_eq hfile hproject, result_source table scanner limit project hcwd hnul, hsource]

/-- A source, and beside it a pipe and a header, both of its base name. -/
def pipeBeforeHeader : Surroundings where
  fs := ((FileSystem.empty.put (Path.ofText "/p/a.c".toList).components { entry := .file [] }).put
    (Path.ofText "/p/a.h".toList).components { entry := .special }).put
      (Path.ofText "/p/a.hh".toList).components { entry := .file [] }
  cwd := Path.root

/-- The pipe is found in place of the header. -/
theorem lookups_findPipe :
    pipeBeforeHeader.cwd.IsNulFree ∧
    (Argument.text "/p/a.c".toList).require "source" pipeBeforeHeader.cwd = .ok (Path.ofText "/p/a.c".toList) ∧
    (Argument.text "/p".toList).require "project_root" pipeBeforeHeader.cwd = .ok (Path.ofText "/p".toList) ∧
    pipeBeforeHeader.fs.HasRegular pipeBeforeHeader.cwd (Path.ofText "/p".toList) (Path.ofText "/p/a.hh".toList) ∧
    (headerProbe .default (Path.ofText "/p/a.c".toList)).accepts (Path.ofText "/p/a.hh".toList) = true ∧
    pipeBeforeHeader.fs.HasIrregular pipeBeforeHeader.cwd (Path.ofText "/p".toList) (Path.ofText "/p/a.h".toList) ∧
    (headerForSource pipeBeforeHeader .default (.text "/p/a.c".toList)).result
      = .ok (some (Path.ofText "/p/a.h".toList)) ∧
    (headerProbe .default (Path.ofText "/p/a.c".toList)).Finds pipeBeforeHeader.fs pipeBeforeHeader.cwd
      (headerDirectories (Path.ofText "/p/a.c".toList)) (some (Path.ofText "/p/a.h".toList)) := by
  have hcwd : pipeBeforeHeader.cwd.IsNulFree := by
    unfold Path.IsNulFree
    decide
  have hsource : (Argument.text "/p/a.c".toList).require "source" pipeBeforeHeader.cwd
      = .ok (Path.ofText "/p/a.c".toList) := rfl
  have hproject : (Argument.text "/p".toList).require "project_root" pipeBeforeHeader.cwd
      = .ok (Path.ofText "/p".toList) := rfl
  have hresult : (headerForSource pipeBeforeHeader .default (.text "/p/a.c".toList)).result
      = .ok (some (Path.ofText "/p/a.h".toList)) := by decide +kernel
  obtain ⟨-, -, ⟨header, hheader, hfinds⟩, -⟩ := lookups_findUnlessShadowed hcwd hsource hproject .default none none
  obtain rfl : some (Path.ofText "/p/a.h".toList) = header := Except.ok.inj (hresult.symm.trans hheader)
  refine ⟨hcwd, hsource, hproject, ?_, by decide +kernel, ?_, hresult, hfinds⟩
  · exact ⟨_, rfl, ⟨⟨"a.hh".toList, by decide⟩, { entry := .file [] }⟩, by decide +kernel, .file rfl, rfl⟩
  · exact ⟨_, rfl, ⟨⟨"a.h".toList, by decide⟩, { entry := .special }⟩, by decide +kernel, .special rfl, rfl⟩

end Lookup

end Counterpart
