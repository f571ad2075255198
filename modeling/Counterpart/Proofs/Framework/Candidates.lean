import Counterpart.Proofs.Framework.Place
import Counterpart.Proofs.Path.Below

/-!
# The header directories of a framework

The headers of a framework lie in one of two folders, and in each of them in one of three layouts.

* `addFolder_eq`: one folder of headers further, the directories of its layouts follow;
* `headerDirectories_eq`: so all of them are tried, those of public headers first;
* `headerDirectories_areEachOnce`: none is missing, and none is tried twice.
-/

namespace Counterpart.Framework

lemma isComponent_headers : isComponent "Headers".toList = true := by decide

lemma isComponent_privateHeaders : isComponent "PrivateHeaders".toList = true := by decide

/-- The folder of public headers. -/
def publicFolder : Component := ⟨"Headers".toList, isComponent_headers⟩

/-- The folder of private headers. -/
def privateFolder : Component := ⟨"PrivateHeaders".toList, isComponent_privateHeaders⟩

variable {directory dir : Path} {framework : Framework}

/-! ## Layouts -/

/-- Headers as the sources lie, without a leading framework name. -/
def plainLayout (framework : Framework) (headers : Component) : Path :=
  (framework.path.child headers).join (Path.ofText framework.folder)

/-- The same inside one more folder with the framework's name. -/
def namedLayout (framework : Framework) (headers : Component) : Path :=
  ((framework.path.child headers).join (Path.ofText framework.name)).join (Path.ofText framework.folder)

/-- Headers inside that folder exactly as the sources lie. -/
def verbatimLayout (framework : Framework) (headers : Component) : Path :=
  ((framework.path.child headers).join (Path.ofText framework.name)).join (Path.ofText framework.sourceFolder)

/-- The layouts of one folder of headers.  The third is another one than the first if a framework name is left out. -/
def layouts (framework : Framework) (headers : Component) : List Path :=
  [framework.namedLayout headers, framework.plainLayout headers] ++
    if framework.sourceFolder = framework.folder then [] else [framework.verbatimLayout headers]

section Components

/-! ### Layouts by their components -/

variable (anchor : Anchor) (above : List Component) (name : Component) (behind : List Component) (headers : Component)

/-- The plain layout has the folders below the headers, less the name of the framework. -/
lemma plainLayout_place : (place anchor above name behind).plainLayout headers
    = ⟨anchor, above ++ name :: headers :: withoutName name behind⟩ := by
  show (Path.child _ headers).join (Path.ofText (Path.componentsText _)) = _
  rw [Path.join_componentsText]
  simp [place, Path.child]

/-- Below the headers there is a folder with the framework's name. -/
lemma join_name_place : ((place anchor above name behind).path.child headers).join
      (Path.ofText (place anchor above name behind).name) = ⟨anchor, above ++ [name, headers, name]⟩ := by
  show (Path.child _ headers).join (Path.ofText name.val) = _
  rw [Path.ofText_val]
  simp [place, Path.child, Path.join, Path.isAbsolute]

/-- The named layout has the framework's name between. -/
lemma namedLayout_place : (place anchor above name behind).namedLayout headers
    = ⟨anchor, above ++ name :: headers :: name :: withoutName name behind⟩ := by
  unfold namedLayout
  rw [join_name_place]
  show Path.join _ (Path.ofText (Path.componentsText _)) = _
  rw [Path.join_componentsText]
  simp

/-- The verbatim layout has the framework's name between, and the folders as they are. -/
lemma verbatimLayout_place : (place anchor above name behind).verbatimLayout headers
    = ⟨anchor, above ++ name :: headers :: name :: behind⟩ := by
  unfold verbatimLayout
  rw [join_name_place]
  show Path.join _ (Path.ofText (Path.componentsText _)) = _
  rw [Path.join_componentsText]
  simp

end Components

/-- The folder is written as in the sources exactly if there is no name to leave out. -/
lemma sourceFolder_eq_folder_iff {anchor : Anchor} {above behind : List Component} {name : Component} :
    (place anchor above name behind).sourceFolder = (place anchor above name behind).folder
      ↔ behind = withoutName name behind :=
  Path.componentsText_inj

/-- All layouts lie below the headers. -/
lemma isAtOrBelow_place (anchor : Anchor) (above : List Component) (name : Component) (behind : List Component)
    (c : Component) (cs : List Component) :
    Path.IsAtOrBelow ⟨anchor, above ++ name :: c :: cs⟩ ((place anchor above name behind).path.child c) :=
  ⟨cs, by simp [place, Path.child]⟩

/-- The verbatim layout is one of its own only if the folder is written another way. -/
lemma mem_layouts_iff {headers : Component} : dir ∈ framework.layouts headers ↔
    dir = framework.namedLayout headers ∨ dir = framework.plainLayout headers ∨
      framework.sourceFolder ≠ framework.folder ∧ dir = framework.verbatimLayout headers := by
  unfold layouts
  split <;> simp [*]

/-- If the folder is not written another way, the verbatim layout is the named one. -/
lemma verbatimLayout_eq (h : framework.sourceFolder = framework.folder) (headers : Component) :
    framework.verbatimLayout headers = framework.namedLayout headers := by
  unfold verbatimLayout namedLayout
  rw [h]

/-- The third layout is always there: if it does not come last, it is the first one. -/
lemma verbatimLayout_mem_layouts (framework : Framework) (headers : Component) :
    framework.verbatimLayout headers ∈ framework.layouts headers := by
  rw [mem_layouts_iff]
  by_cases hsame : framework.sourceFolder = framework.folder
  · exact .inl (verbatimLayout_eq hsame headers)
  · exact .inr (.inr ⟨hsame, rfl⟩)

/-- All layouts of a folder of headers lie in that folder. -/
lemma isAtOrBelow_of_mem_layouts (h : ofDirectory? directory = some framework) (headers : Component) :
    ∀ dir ∈ framework.layouts headers, dir.IsAtOrBelow (framework.path.child headers) := by
  obtain ⟨above, name, behind, -, -, rfl⟩ := ofDirectory?_eq_some_iff.mp h
  intro dir hdir
  rcases mem_layouts_iff.mp hdir with rfl | rfl | ⟨-, rfl⟩
  · rw [namedLayout_place]
    exact isAtOrBelow_place _ above name behind headers _
  · rw [plainLayout_place]
    exact isAtOrBelow_place _ above name behind headers _
  · rw [verbatimLayout_place]
    exact isAtOrBelow_place _ above name behind headers _

/-- A source directory lies in its framework's folder of sources. -/
lemma isAtOrBelow_sources (h : ofDirectory? directory = some framework) :
    directory.IsAtOrBelow (framework.path.child sourcesFolder) := by
  obtain ⟨above, name, behind, hcomponents, -, rfl⟩ := ofDirectory?_eq_some_iff.mp h
  have hplace := isAtOrBelow_place directory.anchor above name behind sourcesFolder behind
  rwa [← hcomponents] at hplace

/-- The layouts of one folder of headers differ in the number of their components. -/
lemma nodup_layouts (h : ofDirectory? directory = some framework) (headers : Component) :
    (framework.layouts headers).Nodup := by
  obtain ⟨above, name, behind, -, -, rfl⟩ := ofDirectory?_eq_some_iff.mp h
  have hne {p q : Path} (hlength : p.components.length ≠ q.components.length) : p ≠ q :=
    fun hpq => hlength (congrArg (·.components.length) hpq)
  have hfirst : (place directory.anchor above name behind).namedLayout headers
      ≠ (place directory.anchor above name behind).plainLayout headers := by
    rw [namedLayout_place, plainLayout_place]
    exact hne (by simp)
  unfold layouts
  split
  · simpa using hfirst
  · next hother =>
    have hbehind : behind = name :: withoutName name behind :=
      (withoutName_eq_or name behind).resolve_left fun hsame => hother (sourceFolder_eq_folder_iff.mpr hsame)
    have hlength := congrArg List.length hbehind
    rw [List.length_cons] at hlength
    have hthird : (place directory.anchor above name behind).namedLayout headers
        ≠ (place directory.anchor above name behind).verbatimLayout headers := by
      rw [namedLayout_place, verbatimLayout_place]
      exact hne (by simp; omega)
    have hsecond : (place directory.anchor above name behind).plainLayout headers
        ≠ (place directory.anchor above name behind).verbatimLayout headers := by
      rw [plainLayout_place, verbatimLayout_place]
      exact hne (by simp; omega)
    simp [hfirst, hsecond, hthird]

/-! ## Trying the layouts -/

lemma below_eq (base : Path) (folder : Text) : below base folder = base.join (Path.ofText folder) := by
  unfold below
  split
  · next hempty =>
    rw [List.isEmpty_iff.mp hempty]
    have hread := Path.join_componentsText base []
    rw [List.append_nil] at hread
    exact hread.symm
  · rfl

/-- One folder of headers further, the directories of its layouts follow, if nothing in that folder has been tried. -/
lemma addFolder_eq (h : ofDirectory? directory = some framework) {candidates : List Path} {headers : Component}
    (hnew : ∀ dir ∈ candidates, ¬ dir.IsAtOrBelow (framework.path.child headers)) :
    framework.addFolder candidates headers = candidates ++ framework.layouts headers := by
  have hnodup := nodup_layouts h headers
  have hverbatim := isAtOrBelow_of_mem_layouts h headers _ (verbatimLayout_mem_layouts framework headers)
  have hempty : framework.sourceFolder = [] → framework.sourceFolder = framework.folder := by
    obtain ⟨above, name, behind, -, -, rfl⟩ := ofDirectory?_eq_some_iff.mp h
    intro hnone
    obtain rfl : behind = [] := Path.componentsText_inj.mp hnone
    rfl
  have hstep : framework.addFolder candidates headers =
      let tried := candidates ++ [framework.namedLayout headers, framework.plainLayout headers]
      if framework.sourceFolder.isEmpty then tried
      else if tried.contains (framework.verbatimLayout headers) then tried
      else tried ++ [framework.verbatimLayout headers] := by
    unfold addFolder
    simp only [below_eq]
    rfl
  rw [hstep]
  unfold layouts at hnodup ⊢
  by_cases hsame : framework.sourceFolder = framework.folder
  · simp [hsame, verbatimLayout_eq hsame]
  · rw [if_neg hsame] at hnodup ⊢
    have hnot : framework.verbatimLayout headers ∉
        candidates ++ [framework.namedLayout headers, framework.plainLayout headers] := by
      rw [List.mem_append, not_or]
      refine ⟨fun hmem => hnew _ hmem hverbatim, fun hmem => ?_⟩
      exact (List.nodup_append.mp hnodup).2.2 _ hmem _ (List.mem_singleton_self _) rfl
    dsimp only
    rw [if_neg (fun hnone => hsame (hempty (List.isEmpty_iff.mp hnone))), if_neg (by simpa using hnot),
      List.append_assoc]

/-- All layouts are tried, those of public headers first. -/
lemma headerDirectories_eq (h : ofDirectory? directory = some framework) :
    framework.headerDirectories = framework.layouts publicFolder ++ framework.layouts privateFolder := by
  show framework.addFolder (framework.addFolder [] publicFolder) privateFolder = _
  rw [addFolder_eq h (fun dir hdir => absurd hdir List.not_mem_nil), List.nil_append, addFolder_eq h]
  intro dir hdir hprivate
  exact absurd (Path.eq_of_isAtOrBelow_child (isAtOrBelow_of_mem_layouts h publicFolder dir hdir) hprivate) (by decide)

/-- The layouts are made of the components of the source directory and of the folder of headers. -/
lemma mem_of_mem_layouts (h : ofDirectory? directory = some framework) {headers c : Component}
    (hdir : dir ∈ framework.layouts headers) (hc : c ∈ dir.components) : c ∈ directory.components ∨ c = headers := by
  obtain ⟨above, name, behind, hcomponents, -, rfl⟩ := ofDirectory?_eq_some_iff.mp h
  have hfolder : c ∈ withoutName name behind → c ∈ behind := mem_of_mem_withoutName
  rw [hcomponents]
  rcases mem_layouts_iff.mp hdir with rfl | rfl | ⟨-, rfl⟩
  · rw [namedLayout_place] at hc
    grind
  · rw [plainLayout_place] at hc
    grind
  · rw [verbatimLayout_place] at hc
    grind

/-- The directories in which a header of a framework is looked for: each layout of public headers, then each of private
ones, and none of them twice.  All of them lie below the framework, also once double dots are taken back, if the path of
the sources has none.  No header that is put where a layout has it is missed. -/
theorem headerDirectories_areEachOnce (h : ofDirectory? directory = some framework) :
    framework.headerDirectories = framework.layouts publicFolder ++ framework.layouts privateFolder ∧
    framework.headerDirectories.Nodup ∧
    (∀ headers, ∀ dir ∈ framework.layouts headers, dir.IsAtOrBelow (framework.path.child headers)) ∧
    (∀ dir ∈ framework.headerDirectories, dir.IsBelow framework.path ∧
      (Component.up ∉ directory.components → Component.up ∉ dir.components)) ∧
    ∀ headers ∈ headerFolders, ∀ header : Path,
      header.parent = framework.plainLayout headers ∨ header.parent = framework.namedLayout headers ∨
        header.parent = framework.verbatimLayout headers → header.parent ∈ framework.headerDirectories := by
  have hall := headerDirectories_eq h
  have hpublic := isAtOrBelow_of_mem_layouts h publicFolder
  have hprivate := isAtOrBelow_of_mem_layouts h privateFolder
  refine ⟨hall, ?_, isAtOrBelow_of_mem_layouts h, fun dir hdir => ?_, fun headers hheaders header hheader => ?_⟩
  · rw [hall, List.nodup_append]
    refine ⟨nodup_layouts h publicFolder, nodup_layouts h privateFolder, ?_⟩
    rintro dir hdir _ hdir' rfl
    exact absurd (Path.eq_of_isAtOrBelow_child (hpublic dir hdir) (hprivate dir hdir')) (by decide)
  · have hbelow : ∃ headers ∈ headerFolders, dir ∈ framework.layouts headers := by
      rw [hall] at hdir
      rcases List.mem_append.mp hdir with hdir | hdir
      · exact ⟨publicFolder, List.mem_cons_self, hdir⟩
      · exact ⟨privateFolder, List.mem_cons_of_mem _ List.mem_cons_self, hdir⟩
    obtain ⟨headers, hheaders, hmem⟩ := hbelow
    refine ⟨⟨headers, isAtOrBelow_of_mem_layouts h headers dir hmem⟩, fun hnormal hup => ?_⟩
    rcases mem_of_mem_layouts h hmem hup with hsources | hfolder
    · exact hnormal hsources
    · rw [← hfolder] at hheaders
      exact absurd hheaders (by decide)
  · have hlayout : header.parent ∈ framework.layouts headers := by
      rcases hheader with hplain | hnamed | hverbatim
      · exact mem_layouts_iff.mpr (.inr (.inl hplain))
      · exact mem_layouts_iff.mpr (.inl hnamed)
      · rw [hverbatim]
        exact verbatimLayout_mem_layouts framework headers
    rw [hall]
    rcases List.mem_pair.mp hheaders with rfl | rfl
    · exact List.mem_append_left _ hlayout
    · exact List.mem_append_right _ hlayout

/-- A folder that repeats the framework's name: three directories in either folder of headers. -/
theorem headerDirectories_areEachOnce_repeatedName :
    ofDirectory? (Path.ofText "/F/Sources/F/a".toList)
      = some ⟨Path.ofText "/F".toList, "F".toList, "a".toList, "F/a".toList⟩ ∧
    (⟨Path.ofText "/F".toList, "F".toList, "a".toList, "F/a".toList⟩ : Framework).headerDirectories
      = ["/F/Headers/F/a", "/F/Headers/a", "/F/Headers/F/F/a", "/F/PrivateHeaders/F/a", "/F/PrivateHeaders/a",
        "/F/PrivateHeaders/F/F/a"].map (fun s => Path.ofText s.toList) := by
  have hframework : ofDirectory? (Path.ofText "/F/Sources/F/a".toList)
      = some ⟨Path.ofText "/F".toList, "F".toList, "a".toList, "F/a".toList⟩ := by decide +kernel
  refine ⟨hframework, ?_⟩
  rw [(headerDirectories_areEachOnce hframework).1]
  decide +kernel

end Counterpart.Framework
