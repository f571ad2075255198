import Counterpart.Proofs.Include.Acceptance

/-!
# Spellings that ascend

A file below the directory of a header reaches the header by going up, past that directory if it likes, and down again
through the directories that it has passed.

* `directoryNames_text`: the directories on a route are the components of the route before its last one, ways up left
  out;
* `normal_join_ascending`: such a spelling leads from the file to the header;
* `accepts_ascendingSpelling`: so a query accepts all of them.
-/

namespace Counterpart

namespace Path

/-! ## Texts of components -/

/-- Components as a text, each with a slash behind it. -/
def directoriesText (cs : List Component) : Text := cs.flatMap fun c => c.val ++ ['/']

lemma directoriesText_append (cs ds : List Component) :
    directoriesText (cs ++ ds) = directoriesText cs ++ directoriesText ds := List.flatMap_append

lemma componentsText_append_singleton (cs : List Component) (c : Component) :
    componentsText (cs ++ [c]) = directoriesText cs ++ c.val := by
  unfold componentsText directoriesText Text.join
  induction cs with
  | nil => simp
  | cons d cs ih =>
    obtain ⟨next, rest, hrest⟩ := List.exists_cons_of_ne_nil (show cs ++ [c] ≠ [] by simp)
    rw [hrest, List.map_cons] at ih
    rw [List.cons_append, hrest, List.map_cons, List.map_cons, List.intercalate_cons_cons, ih, List.flatMap_cons]
    simp only [List.append_assoc]

lemma directoriesText_eq {cs : List Component} (h : cs ≠ []) : directoriesText cs = componentsText cs ++ ['/'] := by
  obtain ⟨init, last, rfl⟩ := cs.eq_nil_or_concat.resolve_left h
  rw [List.concat_eq_append, componentsText_append_singleton, directoriesText_append]
  simp [directoriesText]

/-! ## Up and down again -/

/-- From a normal directory up and then down by names: as many components are taken back as there are ways up. -/
lemma normal_join_ups {p : Path} (h : p.isAbsolute = true) (up : Nat) {names : List Component}
    (hnames : Component.up ∉ names) :
    (p.join ⟨.working, List.replicate up .up ++ names⟩).normal
      = { p with components := p.normal.components.take (p.normal.components.length - up) ++ names } := by
  have hjoin : p.join ⟨.working, List.replicate up .up ++ names⟩
      = ⟨p.anchor, p.components ++ (List.replicate up .up ++ names)⟩ := rfl
  have hclimb : p.components.foldl (climb p.anchor) [] = p.normal.components.reverse := by
    unfold normal
    rw [List.reverse_reverse]
  have hnormal := (isNormal_normal h).up_notMem
  rw [hjoin]
  unfold normal
  dsimp only
  rw [List.foldl_append, hclimb, List.foldl_append,
    foldl_climb_ups (isAbsolute_iff.1 h) up (by simpa using hnormal), foldl_climb_names hnames,
    List.reverse_append, List.reverse_reverse, List.reverse_drop, List.reverse_reverse, List.length_reverse]

end Path

namespace Include

open Counterpart.Path

/-! ## Directories on a route -/

/-- The directories on a route: the components before its last one, ways up left out. -/
def routeDirectories (route : Path) : List Component := route.components.dropLast.filter (· ≠ .up)

lemma isDirectoryName_val (c : Component) : isDirectoryName c.val = decide (c ≠ .up) := by
  have hdot : c.val ≠ ['.'] := by
    have h := c.property
    simp only [isComponent, Bool.and_eq_true, decide_eq_true_eq] at h
    exact h.1.2
  unfold isDirectoryName
  have hup : c.val = ['.', '.'] ↔ c = .up := ⟨fun h => Subtype.ext h, fun h => by rw [h]; rfl⟩
  simp [c.ne_nil, hdot, hup]

lemma beforeLast_componentsText (cs : List Component) :
    Text.beforeLast '/' (componentsText cs) = componentsText cs.dropLast := by
  by_cases h : cs = []
  · subst h
    decide
  · unfold Text.beforeLast
    rw [splitOn_componentsText h, ← List.map_dropLast]
    rfl

/-- The directories of a route's text are those of the route. -/
lemma directoryNames_text {route : Path} (h : route.anchor = .working) :
    directoryNames route.text = (routeDirectories route).map (·.val) := by
  unfold text
  split
  · next hhere =>
    unfold routeDirectories
    rw [hhere.2]
    decide
  · unfold directoryNames routeDirectories
    rw [h, show Anchor.working.text = [] from rfl, List.nil_append, beforeLast_componentsText]
    by_cases hnone : route.components.dropLast = []
    · rw [hnone]
      decide
    · rw [splitOn_componentsText hnone, List.filter_map]
      congr 1
      exact List.filter_congr fun c _ => isDirectoryName_val c

/-! ## Spellings -/

/-- The last `j` directories above a header. -/
def lastDirectories (header : Path) (j : Nat) : List Component :=
  header.parent.components.drop (header.parent.components.length - j)

/-- The spelling of a header that goes up some times, and down again through the last `j` directories above it. -/
def ascendingSpelling (header : Path) (up j : Nat) : Text :=
  ascents up ++ directoriesText (lastDirectories header j) ++ header.name

variable {header project cwd : Path}

lemma directoriesText_ups (up : Nat) : directoriesText (List.replicate up .up) = ascents up := by
  unfold directoriesText ascents
  rw [List.flatMap_def, List.map_replicate]
  rfl

lemma ascendingSpelling_eq {c : Component} (h : header.components.getLast? = some c) (up j : Nat) :
    ascendingSpelling header up j
      = componentsText (List.replicate up .up ++ lastDirectories header j ++ [c]) := by
  have hname : header.name = c.val := by simp [Path.name, h]
  unfold ascendingSpelling
  rw [componentsText_append_singleton, directoriesText_append, directoriesText_ups, hname]

lemma filter_ups (up : Nat) : (List.replicate up Component.up).filter (· ≠ .up) = [] := by
  rw [List.filter_eq_nil_iff]
  intro c hc
  simp [List.eq_of_mem_replicate hc]

/-- The directories on the route to a header are the last ones above it. -/
lemma exists_parent_eq (hheader : header.IsNormal) (hproject : project.IsNormal) (cwd : Path) :
    ∃ above, header.parent.components = above ++ routeDirectories (header.relativeTo project cwd) := by
  obtain ⟨common, down, up, hdown, -, hroute⟩ := relativeTo_eq hheader hproject cwd
  unfold routeDirectories Path.parent
  rw [hroute, hdown]
  rcases down.eq_nil_or_concat with rfl | ⟨directories, name, rfl⟩
  · -- the way leads to the project or above it
    refine ⟨common.dropLast, ?_⟩
    dsimp only
    rw [List.append_nil, List.append_nil, List.dropLast_replicate, filter_ups, List.append_nil]
  · have hnames : directories.filter (· ≠ Component.up) = directories := by
      rw [List.filter_eq_self]
      intro c hc
      have hmem : c ∈ header.components := by
        rw [hdown]
        simp [hc]
      simpa using fun hup : c = .up => hheader.up_notMem (hup ▸ hmem)
    refine ⟨common, ?_⟩
    dsimp only
    rw [List.concat_eq_append, ← List.append_assoc, ← List.append_assoc, List.dropLast_concat, List.dropLast_concat,
      List.filter_append, filter_ups, hnames, List.nil_append]

/-- From a directory below that of a header such a spelling leads to the header. -/
lemma normal_join_ascending (hheader : header.IsNormal) {c : Component} (hc : header.components.getLast? = some c)
    {dir : Path} (hdir : dir.isAbsolute = true) {below : List Component}
    (hbelow : dir.normal = { header.parent with components := header.parent.components ++ below }) {j : Nat}
    (hj : j ≤ header.parent.components.length) :
    (dir.join (ofText (ascendingSpelling header (below.length + j) j))).normal = header := by
  have hcomponents : header.components = header.parent.components ++ [c] :=
    (List.dropLast_append_getLast? c hc).symm
  have hnames : Component.up ∉ lastDirectories header j ++ [c] := by
    intro hmem
    refine hheader.up_notMem ?_
    rw [hcomponents]
    rcases List.mem_append.mp hmem with hmem | hmem
    · exact List.mem_append_left _ (List.mem_of_mem_drop hmem)
    · exact List.mem_append_right _ hmem
  rw [ascendingSpelling_eq hc, ofText_componentsText, List.append_assoc, normal_join_ups hdir _ hnames]
  -- what is left of the way down to the file is the header's directory without its last components
  have hanchor : dir.normal.anchor = header.anchor := by rw [hbelow]; rfl
  change dir.anchor = header.anchor at hanchor
  have hleft : dir.normal.components.take (dir.normal.components.length - (below.length + j))
      = header.parent.components.take (header.parent.components.length - j) := by
    rw [hbelow]
    dsimp only
    rw [List.length_append, show header.parent.components.length + below.length - (below.length + j)
      = header.parent.components.length - j by omega, List.take_append_of_le_length (by omega)]
  rw [hleft, lastDirectories, ← List.append_assoc, List.take_append_drop, hanchor, ← hcomponents]

/-- Such a spelling is one that may ascend, as far as it goes down through directories on the route. -/
lemma isAscending_ascendingSpelling (hheader : header.IsNormal) (hproject : project.IsNormal) (cwd : Path) (up : Nat)
    {j : Nat} (hj : j ≤ (routeDirectories (header.relativeTo project cwd)).length) :
    IsAscending (header.relativeTo project cwd).text header.name (ascendingSpelling header up j) := by
  obtain ⟨above, habove⟩ := exists_parent_eq hheader hproject cwd
  have hroute : (header.relativeTo project cwd).anchor = .working := by
    obtain ⟨_, _, _, -, -, hroute⟩ := relativeTo_eq hheader hproject cwd
    rw [hroute]
  have hlast : lastDirectories header j = (routeDirectories (header.relativeTo project cwd)).drop
      ((routeDirectories (header.relativeTo project cwd)).length - j) := by
    unfold lastDirectories
    rw [habove, List.length_append, List.drop_append, List.drop_eq_nil_of_le (by omega), List.nil_append,
      show above.length + (routeDirectories (header.relativeTo project cwd)).length - j - above.length
        = (routeDirectories (header.relativeTo project cwd)).length - j by omega]
  refine ⟨up, directoriesText (lastDirectories header j), ?_, rfl⟩
  rw [directoryNames_text hroute]
  by_cases hnone : lastDirectories header j = []
  · exact .inl (by rw [hnone]; rfl)
  · have hpos : 1 ≤ j := by
      rcases Nat.eq_zero_or_pos j with rfl | hpos
      · exact absurd (by simp [lastDirectories]) hnone
      · exact hpos
    refine .inr ⟨j, hpos, by rwa [List.length_map], ?_⟩
    rw [directoriesText_eq hnone, hlast, List.length_map, ← List.map_drop]
    rfl

namespace Query

/-- No spelling of a header that ascends is missed: a source in the header's directory or below it is accepted for
every line that goes up to that directory, past it through as many directories as the route has, and down again. -/
theorem accepts_ascendingSpelling {headerArg projectArg : Argument} {headerName projectName : String}
    (hcwd : cwd.isAbsolute = true) (hheader : headerArg.require headerName cwd = .ok header)
    (hproject : projectArg.require projectName cwd = .ok project) (hname : header.name ≠ []) {table : ExtensionTable}
    {source : Path} (hsource : table.role source.text = .source) {below : List Component}
    (hbelow : source.parent.normal = { header.parent with components := header.parent.components ++ below }) {j : Nat}
    (hj : j ≤ (routeDirectories (header.relativeTo project cwd)).length) {line : Text}
    (hline : IncludeLine defaultDirectives line (ascendingSpelling header (below.length + j) j)) :
    (forHeader header project cwd).accepts table source line = true := by
  have hnormal := Argument.isNormal_of_require hcwd hheader
  have hbase := Argument.isNormal_of_require hcwd hproject
  have hdir : source.parent.isAbsolute = true := by
    have hanchor : source.parent.normal.anchor = header.anchor := by rw [hbelow]; rfl
    exact isAbsolute_iff.2 (hanchor ▸ isAbsolute_iff.1 hnormal.absolute)
  obtain ⟨c, hc⟩ : ∃ c, header.components.getLast? = some c := by
    cases hlast : header.components.getLast? with
    | none => exact absurd (by simp [Path.name, hlast]) hname
    | some c => exact ⟨c, rfl⟩
  have hall : j ≤ header.parent.components.length := by
    obtain ⟨above, habove⟩ := exists_parent_eq hnormal hbase cwd
    rw [habove, List.length_append]
    omega
  refine (accepts_iff_includeLine (by decide) areWords_defaultDirectives).mpr ⟨hsource, _, hline, .inr (.inr ⟨?_, ?_⟩)⟩
  · exact isAscending_ascendingSpelling hnormal hbase cwd _ hj
  · exact normal_join_ascending hnormal hc hdir hbelow hall

/-- A header outside the project, in directories of the same name, with blanks, a quote and special characters on the
way: a source below it goes up three times and down twice. -/
theorem accepts_ascendingSpelling_outside :
    Path.root.isAbsolute = true ∧
    (Argument.text "/x/a b/a b/c+\".h".toList).require "header" Path.root
      = .ok (ofText "/x/a b/a b/c+\".h".toList) ∧
    (Argument.text "/p/q".toList).require "project_root" Path.root = .ok (ofText "/p/q".toList) ∧
    (ofText "/x/a b/a b/c+\".h".toList).name ≠ [] ∧
    ExtensionTable.default.role (ofText "/x/a b/a b/(s]/m.c".toList).text = .source ∧
    ascendingSpelling (ofText "/x/a b/a b/c+\".h".toList) 3 2 = "../../../a b/a b/c+\".h".toList ∧
    IncludeLine defaultDirectives "#import <../../../a b/a b/c+\".h>".toList "../../../a b/a b/c+\".h".toList ∧
    (forHeader (ofText "/x/a b/a b/c+\".h".toList) (ofText "/p/q".toList) Path.root).accepts .default
      (ofText "/x/a b/a b/(s]/m.c".toList) "#import <../../../a b/a b/c+\".h>".toList = true := by
  have hheader : (Argument.text "/x/a b/a b/c+\".h".toList).require "header" Path.root
      = .ok (ofText "/x/a b/a b/c+\".h".toList) := rfl
  have hproject : (Argument.text "/p/q".toList).require "project_root" Path.root = .ok (ofText "/p/q".toList) := rfl
  have hname : (ofText "/x/a b/a b/c+\".h".toList).name ≠ [] := by decide +kernel
  have hsource : ExtensionTable.default.role (ofText "/x/a b/a b/(s]/m.c".toList).text = .source := by decide +kernel
  have hspelling : ascendingSpelling (ofText "/x/a b/a b/c+\".h".toList) 3 2
      = "../../../a b/a b/c+\".h".toList := by decide +kernel
  have hline : IncludeLine defaultDirectives "#import <../../../a b/a b/c+\".h>".toList
      "../../../a b/a b/c+\".h".toList := by
    refine ⟨[], "import".toList, [' '], [], '<', '>', by decide +kernel, fun c hc => absurd hc List.not_mem_nil,
      by decide, ?_, by decide, .inr rfl, .inr rfl, fun c hc => absurd hc List.not_mem_nil⟩
    intro c hc
    rw [List.mem_singleton.mp hc]
    decide
  refine ⟨by decide, hheader, hproject, hname, hsource, hspelling, hline, ?_⟩
  have hbelow : (ofText "/x/a b/a b/(s]/m.c".toList).parent.normal
      = { (ofText "/x/a b/a b/c+\".h".toList).parent with
          components := (ofText "/x/a b/a b/c+\".h".toList).parent.components ++ [⟨"(s]".toList, by decide⟩] } := by
    decide +kernel
  exact accepts_ascendingSpelling (j := 2) (by decide) hheader hproject hname hsource hbelow (by decide +kernel)
    (by rw [← hspelling] at hline; exact hline)

end Query

end Include

end Counterpart
