import Counterpart.Proofs.Framework.Place

/-!
# Characters of paths

Paths without NUL characters.  The operating system hands out no other working directory, and no other argument
is accepted, so no path made from the two can have one:

* `isNulFree_of_require`: accepted arguments;
* `isNulFree_headerDirectories`: the folders of headers of a framework;
* `require_of_isNulFree` and `require_path`: paths without a NUL are accepted, and an accepted path again, as it is.
-/

namespace Counterpart

/-- A character other than the separator stands in one of the pieces. -/
lemma Text.mem_join {sep c : Char} (h : c ≠ sep) {pieces : List Text} :
    c ∈ Text.join sep pieces ↔ ∃ piece ∈ pieces, c ∈ piece := by
  unfold Text.join
  induction pieces with
  | nil => simp
  | cons piece rest ih =>
    cases rest with
    | nil => simp
    | cons next rest =>
      rw [List.intercalate_cons_cons, List.mem_append, List.mem_append, List.mem_singleton, ih]
      simp [h]

namespace Path

/-- A path whose components hold no NUL. -/
def IsNulFree (p : Path) : Prop := ∀ c ∈ p.components, '\x00' ∉ c.val

/-- A path that can be a working directory. -/
structure IsWorkingDirectory (cwd : Path) : Prop where
  absolute : cwd.isAbsolute = true
  nulFree : cwd.IsNulFree

/-! ## Operations on paths -/

/-- Making a path normal brings in no new component. -/
lemma mem_of_mem_foldl_climb {anchor : Anchor} {cs done : List Component} {c : Component}
    (h : c ∈ cs.foldl (climb anchor) done) : c ∈ done ∨ c ∈ cs := by
  induction cs generalizing done with
  | nil => exact .inl h
  | cons d cs ih =>
    -- a step leaves out components, or adds its own
    have hstep : ∀ c ∈ climb anchor done d, c ∈ done ∨ c = d := by
      intro c hc
      unfold climb at hc
      grind
    rw [List.foldl_cons] at h
    rcases ih h with h | h
    · rcases hstep c h with h | rfl
      · exact .inl h
      · exact .inr List.mem_cons_self
    · exact .inr (List.mem_cons_of_mem d h)

/-- Making a path normal brings in no NUL. -/
lemma IsNulFree.normal {p : Path} (h : p.IsNulFree) : p.normal.IsNulFree := by
  intro c hc
  have hmem : c ∈ p.components.foldl (climb p.anchor) [] := List.mem_reverse.mp hc
  rcases mem_of_mem_foldl_climb hmem with hmem | hmem
  · exact absurd hmem List.not_mem_nil
  · exact h c hmem

/-- Of paths without a NUL, one below the other has none. -/
lemma IsNulFree.join {p q : Path} (hp : p.IsNulFree) (hq : q.IsNulFree) : (p.join q).IsNulFree := by
  unfold Path.join
  split
  · exact hq
  · intro c hc
    rcases List.mem_append.mp hc with hc | hc
    · exact hp c hc
    · exact hq c hc

/-- The directory of a path without a NUL has none. -/
lemma IsNulFree.parent {p : Path} (h : p.IsNulFree) : p.parent.IsNulFree :=
  fun c hc => h c (List.dropLast_subset p.components hc)

/-- A child whose name has no NUL brings in none. -/
lemma isNulFree_child {p : Path} {c : Component} (hp : p.IsNulFree) (hc : '\x00' ∉ c.val) :
    (p.child c).IsNulFree := by
  intro d hd
  rcases List.mem_append.mp hd with hd | hd
  · exact hp d hd
  · rw [List.mem_singleton.mp hd]
    exact hc

/-! ## Texts -/

/-- A text without a NUL is read as a path without one. -/
lemma isNulFree_ofText {t : Text} (h : '\x00' ∉ t) : (ofText t).IsNulFree := by
  intro c hc hnul
  obtain ⟨piece, hpiece, hread⟩ := List.mem_filterMap.mp hc
  have hval : c.val = piece := by
    unfold Component.ofText? at hread
    split at hread
    · exact congrArg Subtype.val (Option.some.inj hread).symm
    · exact absurd hread (by simp)
  have hjoined : '\x00' ∈ Text.join '/' (t.splitOn '/') :=
    (Text.mem_join (by decide)).mpr ⟨piece, hpiece, by rwa [← hval]⟩
  rw [Text.join, List.intercalate_splitOn] at hjoined
  exact h hjoined

/-- Components without a NUL are written without one. -/
lemma nul_notMem_componentsText {cs : List Component} (h : ∀ c ∈ cs, '\x00' ∉ c.val) :
    '\x00' ∉ componentsText cs := by
  unfold componentsText
  rw [Text.mem_join (by decide)]
  intro ⟨piece, hpiece, hnul⟩
  obtain ⟨c, hc, rfl⟩ := List.mem_map.mp hpiece
  exact h c hc hnul

/-- The text of a path without a NUL has none. -/
lemma IsNulFree.text {p : Path} (h : p.IsNulFree) : '\x00' ∉ p.text := by
  unfold Path.text
  split
  · decide
  · rw [List.mem_append, not_or]
    refine ⟨?_, nul_notMem_componentsText h⟩
    cases p.anchor <;> decide

/-- No path has an empty text. -/
lemma text_ne_nil (p : Path) : p.text ≠ [] := by
  intro h
  unfold text at h
  split at h
  · exact absurd h (by decide)
  · next hdot =>
    obtain ⟨hanchor, hcomponents⟩ := List.append_eq_nil_iff.mp h
    have hworking : p.anchor = .working := by
      cases hp : p.anchor with
      | working => rfl
      | root => rw [hp] at hanchor; exact absurd hanchor (by decide)
      | doubleRoot => rw [hp] at hanchor; exact absurd hanchor (by decide)
    refine hdot ⟨hworking, ?_⟩
    -- components have characters
    by_contra hne
    obtain ⟨c, cs, hcons⟩ := List.exists_cons_of_ne_nil hne
    obtain ⟨rest, hrest⟩ := componentsText_cons c cs
    rw [hcons, hrest] at hcomponents
    exact c.ne_nil (List.append_eq_nil_iff.mp hcomponents).1

end Path

/-! ## Arguments -/

namespace Argument

variable {arg : Argument} {name : String} {cwd p : Path}

/-- An argument that is accepted gives a path without a NUL. -/
lemma isNulFree_of_require (hcwd : cwd.IsNulFree) (h : arg.require name cwd = .ok p) : p.IsNulFree := by
  obtain ⟨-, t, -, -, hnul, rfl⟩ := require_eq_ok_iff.1 h
  exact (hcwd.join (Path.isNulFree_ofText hnul)).normal

/-- A path that holds no NUL is accepted. -/
lemma require_of_isNulFree (hnul : p.IsNulFree) (name : String) (cwd : Path) :
    (Argument.path p).require name cwd = .ok (p.absolute cwd) := by
  refine require_eq_ok_iff.2 ⟨rfl, p.text, rfl, p.text_ne_nil, hnul.text, ?_⟩
  rw [Path.ofText_text]

/-- A path that was accepted is accepted again, as it is. -/
lemma require_path (hnormal : p.IsNormal) (hnul : p.IsNulFree) (name : String) (cwd : Path) :
    (Argument.path p).require name cwd = .ok p := by
  rw [require_of_isNulFree hnul, hnormal.absolute_eq]

end Argument

/-! ## Frameworks -/

namespace Framework

/-- A framework whose path and texts hold no NUL. -/
structure IsNulFree (framework : Framework) : Prop where
  path : framework.path.IsNulFree
  name : '\x00' ∉ framework.name
  folder : '\x00' ∉ framework.folder
  sourceFolder : '\x00' ∉ framework.sourceFolder

/-- A framework in a directory without a NUL has none. -/
lemma isNulFree_ofDirectory? {directory : Path} {framework : Framework} (hdir : directory.IsNulFree)
    (h : ofDirectory? directory = some framework) : framework.IsNulFree := by
  obtain ⟨above, name, behind, hcomponents, -, rfl⟩ := ofDirectory?_eq_some_iff.mp h
  have hnul : ∀ c ∈ above ++ name :: sourcesFolder :: behind, '\x00' ∉ c.val := by rwa [← hcomponents]
  have hbehind : ∀ c ∈ behind, '\x00' ∉ c.val := fun c hc => hnul c (by simp [hc])
  refine ⟨fun c hc => hnul c ?_, hnul name (by simp), ?_, Path.nul_notMem_componentsText hbehind⟩
  · rcases List.mem_append.mp hc with hc | hc
    · exact List.mem_append_left _ hc
    · rw [List.mem_singleton.mp hc]
      simp
  · exact Path.nul_notMem_componentsText fun c hc => hbehind c (mem_of_mem_withoutName hc)

/-- A folder without a NUL brings in none. -/
lemma isNulFree_below {base : Path} {folder : Text} (hbase : base.IsNulFree) (hfolder : '\x00' ∉ folder) :
    (below base folder).IsNulFree := by
  unfold below
  split
  · exact hbase
  · exact hbase.join (Path.isNulFree_ofText hfolder)

/-- The directories that are added for a folder of headers bring in no NUL. -/
lemma isNulFree_addFolder {framework : Framework} (h : framework.IsNulFree) {candidates : List Path}
    (hcandidates : ∀ p ∈ candidates, p.IsNulFree) {headers : Component} (hheaders : '\x00' ∉ headers.val) :
    ∀ p ∈ framework.addFolder candidates headers, p.IsNulFree := by
  have hbase := Path.isNulFree_child h.path hheaders
  have hnamed := hbase.join (Path.isNulFree_ofText h.name)
  have hverbatim := hnamed.join (Path.isNulFree_ofText h.sourceFolder)
  have hfolders := isNulFree_below hnamed h.folder
  have hplain := isNulFree_below hbase h.folder
  intro p hp
  unfold addFolder at hp
  grind

/-- No directory in which headers are looked for has a NUL. -/
lemma isNulFree_headerDirectories {framework : Framework} (h : framework.IsNulFree) :
    ∀ p ∈ framework.headerDirectories, p.IsNulFree :=
  isNulFree_addFolder h (isNulFree_addFolder h (by simp) (by decide)) (by decide)

end Framework

end Counterpart
