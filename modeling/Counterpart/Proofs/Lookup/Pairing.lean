import Counterpart.Proofs.Lookup.Results

/-!
# Files that belong together

What a lookup finds beside a file, a lookup from there finds beside it in turn: both go by the base name, which is the
same for the two.

* `IsMate` says that a file lies beside another one and has its base name;
* `result_header_beside` and `source_beside`: the lookups find a mate, if there is one;
* `IsPair.companion`: where each of two files is the only mate of the other, each is the companion of the other;
* `lookups_leadBack`: the lookups lead back.
-/

namespace Counterpart

/-- The role that a companion has. -/
def Role.counterpart : Role → Role
  | .header => .source
  | .source => .header
  | .other => .other

lemma Role.counterpart_counterpart (role : Role) : role.counterpart.counterpart = role := by cases role <;> rfl

namespace Lookup

/-! ## Mates -/

/-- A file of a role lies beside another file, and has its base name. -/
structure IsMate (around : Surroundings) (table : ExtensionTable) (role : Role) (file mate : Path) : Prop where
  listed : mate ∈ around.fs.filesIn around.cwd file.parent
  role : table.role mate.text = role
  basename : table.basename mate.text = table.basename file.text

/-- The probe for the mates of a file. -/
def mateProbe (table : ExtensionTable) (role : Role) (file : Path) : Probe := ⟨table.basename file.text, role, table⟩

variable {around : Surroundings} {table : ExtensionTable} {role role' : Role} {file mate other : Path}

lemma isMate_iff :
    IsMate around table role file mate ↔
      mate ∈ around.fs.filesIn around.cwd file.parent ∧ (mateProbe table role file).accepts mate = true := by
  rw [Probe.accepts_iff]
  exact ⟨fun h => ⟨h.listed, h.role, h.basename⟩, fun ⟨hlisted, hrole, hbasename⟩ => ⟨hlisted, hrole, hbasename⟩⟩

lemma IsMate.parent (h : IsMate around table role file mate) : mate.parent = file.parent :=
  FileSystem.parent_of_mem_filesIn h.listed

/-- The mates of a mate are mates of the file. -/
lemma IsMate.trans (h : IsMate around table role file mate) (h' : IsMate around table role' mate other) :
    IsMate around table role' file other :=
  ⟨h.parent ▸ h'.listed, h'.role, h'.basename.trans h.basename⟩

/-- A file that is listed is a mate of its mates. -/
lemma IsMate.symm (h : IsMate around table role file mate) (hfile : file ∈ around.fs.filesIn around.cwd file.parent) :
    IsMate around table (table.role file.text) mate file :=
  ⟨h.parent.symm ▸ hfile, rfl, h.basename.symm⟩

/-- A probe beside a file finds one of its mates, if there is one. -/
lemma IsMate.exists_find? (h : IsMate around table role file mate) :
    ∃ found, (around.fs.filesIn around.cwd file.parent).find? (mateProbe table role file).accepts = some found ∧
      IsMate around table role file found := by
  obtain ⟨hlisted, haccepts⟩ := isMate_iff.mp h
  have hsome := List.find?_isSome.mpr ⟨mate, hlisted, haccepts⟩
  obtain ⟨found, hfound⟩ := Option.isSome_iff_exists.mp hsome
  exact ⟨found, hfound, isMate_iff.mpr ⟨List.mem_of_find?_eq_some hfound, List.find?_some hfound⟩⟩

/-- A mate that is listed under its own directory is accepted as an argument. -/
lemma IsMate.require (h : IsMate around table role file mate) (hnames : around.fs.IsNamed) (hnormal : file.IsNormal)
    (hnul : file.IsNulFree) (name : String) : (Argument.path mate).require name around.cwd = .ok mate :=
  Argument.require_path (hnames.isNormal_of_mem_filesIn hnormal.parent h.listed)
    (hnames.isNulFree_of_mem_filesIn hnul.parent h.listed) name around.cwd

/-! ## Lookups beside a file -/

/-- A header beside a source is found before all others. -/
lemma result_header_beside (hcwd : around.cwd.IsNulFree) (hnul : file.IsNulFree)
    (h : (around.fs.filesIn around.cwd file.parent).find? (mateProbe table .header file).accepts = some mate) :
    (header around table file).result = .ok (some mate) := by
  rw [result_header table hcwd hnul]
  unfold headerDirectories
  rw [List.flatMap_cons, List.find?_append]
  have hprobe : headerProbe table file = mateProbe table .header file := rfl
  rw [hprobe, h, Option.some_or]

/-- A header that is found beside its source is a mate. -/
lemma isMate_of_result_header (hcwd : around.cwd.IsNulFree) (hnul : file.IsNulFree)
    (h : (header around table file).result = .ok (some mate)) (hparent : mate.parent = file.parent) :
    IsMate around table .header file mate := by
  obtain ⟨⟨dir, -, hlisted⟩, haccepts⟩ := mem_filesIn_of_result_header hcwd hnul h
  obtain rfl : file.parent = dir := hparent.symm.trans (FileSystem.parent_of_mem_filesIn hlisted)
  exact isMate_iff.mpr ⟨hlisted, haccepts⟩

/-- A source beside a header is found without a search. -/
lemma source_beside (hcwd : around.cwd.IsNulFree) (hnul : file.IsNulFree)
    (h : (around.fs.filesIn around.cwd file.parent).find? (mateProbe table .source file).accepts = some mate)
    (scanner : Option Scanner) (limit : Option TimeLimit) (project : Path) :
    (source around table scanner limit file project).result = .ok (some mate) ∧
      (source around table scanner limit file project).scan = none := by
  obtain ⟨notes, hrun⟩ := (sourceProbe table file).run_eq around.fs hcwd hnul.parent
  have hprobe : sourceProbe table file = mateProbe table .source file := rfl
  rw [hprobe, h] at hrun
  rw [source_of_run hrun]
  exact ⟨rfl, rfl⟩

lemma scan_header (around : Surroundings) (table : ExtensionTable) (file : Path) :
    (header around table file).scan = none := by
  unfold header Report.ofProbe
  dsimp only
  split <;> rfl

/-! ## There and back -/

/-- A lookup from a mate of a file leads back: without a search, to a mate of the mate, and to the file itself if that
is the only one of its role and base name. -/
def LeadsBack (around : Surroundings) (table : ExtensionTable) (role : Role) (file : Path) (report : Report) : Prop :=
  ∃ back, report.result = .ok (some back) ∧ report.scan = none ∧ IsMate around table role file back ∧
    ((∀ other, IsMate around table role file other → other = file) → back = file)

/-- From a header beside a source the lookup of a source leads back. -/
lemma leadsBack_source (hcwd : around.cwd.IsNulFree) (hmate : IsMate around table .header file mate)
    (hlisted : file ∈ around.fs.filesIn around.cwd file.parent) (hrole : table.role file.text = .source)
    (hnul : mate.IsNulFree) (scanner : Option Scanner) (limit : Option TimeLimit) (project : Path) :
    LeadsBack around table .source file (source around table scanner limit mate project) := by
  have hsymm := hmate.symm hlisted
  rw [hrole] at hsymm
  obtain ⟨back, hfind, hback⟩ := hsymm.exists_find?
  obtain ⟨hresult, hscan⟩ := source_beside hcwd hnul hfind scanner limit project
  exact ⟨back, hresult, hscan, hmate.trans hback, fun honly => honly back (hmate.trans hback)⟩

/-- From a source beside a header the lookup of a header leads back. -/
lemma leadsBack_header (hcwd : around.cwd.IsNulFree) (hmate : IsMate around table .source file mate)
    (hlisted : file ∈ around.fs.filesIn around.cwd file.parent) (hrole : table.role file.text = .header)
    (hnul : mate.IsNulFree) : LeadsBack around table .header file (header around table mate) := by
  have hsymm := hmate.symm hlisted
  rw [hrole] at hsymm
  obtain ⟨back, hfind, hback⟩ := hsymm.exists_find?
  exact ⟨back, result_header_beside hcwd hnul hfind, scan_header around table mate, hmate.trans hback,
    fun honly => honly back (hmate.trans hback)⟩

/-! ## Pairs -/

/-- Two files that are listed in one directory are each the only one there of its role and base name, and the roles are
those of a header and a source. -/
structure IsPair (around : Surroundings) (table : ExtensionTable) (file mate : Path) : Prop where
  isKnown : table.role file.text ≠ .other
  listed : file ∈ around.fs.filesIn around.cwd file.parent
  isMate : IsMate around table (table.role file.text).counterpart file mate
  onlyMate : ∀ other, IsMate around table (table.role file.text).counterpart file other → other = mate
  onlyFile : ∀ other, IsMate around table (table.role file.text) file other → other = file

lemma IsPair.symm (h : IsPair around table file mate) : IsPair around table mate file where
  isKnown := by
    rw [h.isMate.role]
    have hknown := h.isKnown
    cases hrole : table.role file.text <;> simp_all [Role.counterpart]
  listed := h.isMate.parent ▸ h.isMate.listed
  isMate := by
    rw [h.isMate.role, Role.counterpart_counterpart]
    exact h.isMate.symm h.listed
  onlyMate := by
    rw [h.isMate.role, Role.counterpart_counterpart]
    exact fun other hother => h.onlyFile other (h.isMate.trans hother)
  onlyFile := by
    rw [h.isMate.role]
    exact fun other hother => h.onlyMate other (h.isMate.trans hother)

/-- Each of a pair is the companion of the other. -/
lemma IsPair.companion {arg projectArg : Argument} {project : Path} {name name' : String}
    (h : IsPair around table file mate) (hcwd : around.cwd.IsWorkingDirectory)
    (hfile : arg.require name around.cwd = .ok file) (hproject : projectArg.require name' around.cwd = .ok project)
    (scanner : Option Scanner) (limit : Option TimeLimit) :
    (companion around table scanner limit arg projectArg).result = .ok (some mate) ∧
      (companion around table scanner limit arg projectArg).scan = none := by
  have hnul : file.IsNulFree := Argument.isNulFree_of_require hcwd.nulFree hfile
  obtain ⟨found, hfind, hfound⟩ := h.isMate.exists_find?
  obtain rfl := h.onlyMate found hfound
  rw [companion_eq hcwd hfile hproject]
  cases hrole : table.role file.text with
  | header =>
    rw [hrole] at hfind
    exact source_beside hcwd.nulFree hnul hfind scanner limit project
  | source =>
    rw [hrole] at hfind
    exact ⟨result_header_beside hcwd.nulFree hnul hfind, scan_header around table file⟩
  | other => exact absurd hrole h.isKnown

/-! ## Lookups -/

variable {fileArg projectArg : Argument} {project : Path} {name name' : String}

/-- Lookups beside a file lead back: from the header that is found beside a source to a source of the same base name,
from the source that is found beside a header to such a header, and from the companion in a pair to the file. -/
theorem lookups_leadBack (hnames : around.fs.IsNamed) (hcwd : around.cwd.IsWorkingDirectory)
    (hfile : fileArg.require name around.cwd = .ok file) (hproject : projectArg.require name' around.cwd = .ok project)
    (hlisted : file ∈ around.fs.filesIn around.cwd file.parent)
    (table : ExtensionTable) (scanner : Option Scanner) (limit : Option TimeLimit) (mate : Path) :
    (table.role file.text = .source → (headerForSource around table fileArg).result = .ok (some mate) →
      mate.parent = file.parent →
      LeadsBack around table .source file (sourceForHeader around table scanner limit (.path mate) projectArg)) ∧
    (table.role file.text = .header → ∀ notes,
      (sourceProbe table file).run around.fs around.cwd file.parent = .ok (some mate, notes) →
      LeadsBack around table .header file (headerForSource around table (.path mate))) ∧
    (IsPair around table file mate →
      (companion around table scanner limit fileArg projectArg).result = .ok (some mate) ∧
      (companion around table scanner limit (.path mate) projectArg).result = .ok (some file)) := by
  have hnormal : file.IsNormal := Argument.isNormal_of_require hcwd.absolute hfile
  have hnul : file.IsNulFree := Argument.isNulFree_of_require hcwd.nulFree hfile
  refine ⟨?_, ?_, ?_⟩
  · intro hrole hfound hparent
    rw [headerForSource_eq hfile] at hfound
    have hmate := isMate_of_result_header hcwd.nulFree hnul hfound hparent
    have hmateNul := hnames.isNulFree_of_mem_filesIn hnul.parent hmate.listed
    rw [sourceForHeader_eq (hmate.require hnames hnormal hnul "header") hproject]
    exact leadsBack_source hcwd.nulFree hmate hlisted hrole hmateNul scanner limit project
  · intro hrole notes hrun
    obtain ⟨notes', hrun'⟩ := (sourceProbe table file).run_eq around.fs hcwd.nulFree hnul.parent
    have hfind := congrArg Prod.fst (Except.ok.inj (hrun'.symm.trans hrun))
    have hmate : IsMate around table .source file mate :=
      isMate_iff.mpr ⟨List.mem_of_find?_eq_some hfind, List.find?_some hfind⟩
    have hmateNul := hnames.isNulFree_of_mem_filesIn hnul.parent hmate.listed
    rw [headerForSource_eq (hmate.require hnames hnormal hnul "source")]
    exact leadsBack_header hcwd.nulFree hmate hlisted hrole hmateNul
  · intro hpair
    have hback := hpair.isMate.require hnames hnormal hnul "path"
    exact ⟨(hpair.companion hcwd hfile hproject scanner limit).1,
      (hpair.symm.companion hcwd hback hproject scanner limit).1⟩

/-- A source, the header that belongs to it by its base name alone, and a header of another base name. -/
def sourceAndInlineHeader : Surroundings where
  fs := ((FileSystem.empty.put (Path.ofText "/p/Foo.cc".toList).components { entry := .file [] }).put
    (Path.ofText "/p/Bar.h".toList).components { entry := .file [] }).put
      (Path.ofText "/p/Foo-inl.h".toList).components { entry := .file [] }
  cwd := Path.root

/-- The source and its header are a pair, and lead to each other. -/
theorem lookups_leadBack_inlineHeader :
    sourceAndInlineHeader.fs.IsNamed ∧ sourceAndInlineHeader.cwd.IsWorkingDirectory ∧
    (Argument.text "/p/Foo.cc".toList).require "path" sourceAndInlineHeader.cwd
      = .ok (Path.ofText "/p/Foo.cc".toList) ∧
    (Argument.text "/p".toList).require "project_root" sourceAndInlineHeader.cwd = .ok (Path.ofText "/p".toList) ∧
    IsPair sourceAndInlineHeader .default (Path.ofText "/p/Foo.cc".toList) (Path.ofText "/p/Foo-inl.h".toList) ∧
    (companion sourceAndInlineHeader .default none none (.text "/p/Foo.cc".toList) (.text "/p".toList)).result
      = .ok (some (Path.ofText "/p/Foo-inl.h".toList)) ∧
    (companion sourceAndInlineHeader .default none none (.path (Path.ofText "/p/Foo-inl.h".toList))
      (.text "/p".toList)).result = .ok (some (Path.ofText "/p/Foo.cc".toList)) ∧
    LeadsBack sourceAndInlineHeader .default .source (Path.ofText "/p/Foo.cc".toList)
      (sourceForHeader sourceAndInlineHeader .default none none (.path (Path.ofText "/p/Foo-inl.h".toList))
        (.text "/p".toList)) := by
  have hnames : sourceAndInlineHeader.fs.IsNamed := ⟨by decide +kernel, by decide +kernel⟩
  have hcwd : sourceAndInlineHeader.cwd.IsWorkingDirectory := by
    refine ⟨rfl, ?_⟩
    unfold Path.IsNulFree
    decide
  have hfile : (Argument.text "/p/Foo.cc".toList).require "path" sourceAndInlineHeader.cwd
      = .ok (Path.ofText "/p/Foo.cc".toList) := rfl
  have hproject : (Argument.text "/p".toList).require "project_root" sourceAndInlineHeader.cwd
      = .ok (Path.ofText "/p".toList) := rfl
  have hrole : ExtensionTable.default.role (Path.ofText "/p/Foo.cc".toList).text = .source := by decide +kernel
  have hfiles : sourceAndInlineHeader.fs.filesIn sourceAndInlineHeader.cwd (Path.ofText "/p/Foo.cc".toList).parent
      = [Path.ofText "/p/Foo.cc".toList, Path.ofText "/p/Bar.h".toList, Path.ofText "/p/Foo-inl.h".toList] := by
    decide +kernel
  have hlisted : Path.ofText "/p/Foo.cc".toList ∈
      sourceAndInlineHeader.fs.filesIn sourceAndInlineHeader.cwd (Path.ofText "/p/Foo.cc".toList).parent := by
    rw [hfiles]
    exact List.mem_cons_self
  have hmate : IsMate sourceAndInlineHeader .default .header (Path.ofText "/p/Foo.cc".toList)
      (Path.ofText "/p/Foo-inl.h".toList) := ⟨by rw [hfiles]; simp, by decide +kernel, by decide +kernel⟩
  have honly (role : Role) (mate : Path)
      (h : ∀ other ∈ [Path.ofText "/p/Foo.cc".toList, Path.ofText "/p/Bar.h".toList,
          Path.ofText "/p/Foo-inl.h".toList], ExtensionTable.default.role other.text = role →
        ExtensionTable.default.basename other.text
          = ExtensionTable.default.basename (Path.ofText "/p/Foo.cc".toList).text → other = mate)
      (other : Path)
      (hother : IsMate sourceAndInlineHeader .default role (Path.ofText "/p/Foo.cc".toList) other) : other = mate :=
    h other (hfiles ▸ hother.listed) hother.role hother.basename
  have hpair : IsPair sourceAndInlineHeader .default (Path.ofText "/p/Foo.cc".toList)
      (Path.ofText "/p/Foo-inl.h".toList) := by
    refine ⟨by rw [hrole]; simp, hlisted, by rw [hrole]; exact hmate, ?_, ?_⟩
    · rw [hrole]
      exact honly .header _ (by decide +kernel)
    · rw [hrole]
      exact honly .source _ (by decide +kernel)
  obtain ⟨hsource, -, htwice⟩ := lookups_leadBack hnames hcwd hfile hproject hlisted .default none none
    (Path.ofText "/p/Foo-inl.h".toList)
  obtain ⟨hthere, hback⟩ := htwice hpair
  exact ⟨hnames, hcwd, hfile, hproject, hpair, hthere, hback, hsource hrole (by decide +kernel) rfl⟩

end Lookup

end Counterpart
