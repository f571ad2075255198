import Counterpart.Proofs.Lookup.Results

/-!
# How lookups check their arguments

Every lookup checks its arguments one after the other, before it does anything else, and raises for the first one that
is not acceptable.  The lookup of a companion checks the project only for a header.

* `Argument.HasFault` and `Argument.HasFault.require_eq`: what is said of an argument that is not acceptable;
* `Checks`: what a call does about its arguments, put together by `Checks.cons` and `Checks.nil`;
* `lookups_checkArguments`: the lookups, and the search that is made ready.
-/

namespace Counterpart

/-! ## Arguments -/

namespace Argument

variable {arg : Argument} {name : String} {cwd : Path} {t : Text}

/-- An argument gives a text as its path. -/
inductive Gives : Argument → Text → Prop
  | text (t : Text) : Gives (.text t) t
  | path (p : Path) : Gives (.path p) p.text
  | pathLike (t : Text) : Gives (.pathLike (.text t)) t

/-- An argument is acceptable if it gives a text that is not empty and holds no NUL. -/
def IsAcceptable (arg : Argument) : Prop := ∃ t, arg.Gives t ∧ t ≠ [] ∧ '\x00' ∉ t

/-- An argument says that it is like a path, and then gives neither text nor bytes as its path. -/
def BreaksItsWord (arg : Argument) : Prop :=
  ∃ inner, arg = .pathLike inner ∧ (∀ t, inner ≠ .text t) ∧ inner ≠ .bytes

/-- What is to be said of an argument that is not acceptable, under the name that it goes by. -/
inductive HasFault (name : String) : Argument → ArgumentError → Prop
  | kind {arg : Argument} (h : arg.isPathKind = false) : HasFault name arg (.notPath name arg.kindName)
  | bytes : HasFault name (.pathLike .bytes) (.notText name)
  | empty {arg : Argument} (h : arg.Gives []) : HasFault name arg (.empty name)
  | nul {arg : Argument} {t : Text} (h : arg.Gives t) (hnul : '\x00' ∈ t) : HasFault name arg (.nul name t)
  | brokenWord {inner : Argument} (htext : ∀ t, inner ≠ .text t) (hbytes : inner ≠ .bytes) :
      HasFault name (.pathLike inner) (.badPathLike inner.kindName)

/-- The text that is taken from an argument is the one that it gives. -/
lemma given_eq_some_iff : arg.given = .ok (some t) ↔ arg.Gives t := by
  constructor
  · intro h
    unfold given at h
    split at h
    · obtain rfl := Option.some.inj (Except.ok.inj h)
      exact .text _
    · obtain rfl := Option.some.inj (Except.ok.inj h)
      exact .path _
    · exact nomatch h
    · obtain rfl := Option.some.inj (Except.ok.inj h)
      exact .pathLike _
    · exact nomatch h
    · exact nomatch h
    · exact nomatch h
  · intro h
    cases h <;> rfl

lemma Gives.isPathKind (h : arg.Gives t) : arg.isPathKind = true := by cases h <;> rfl

/-- The acceptable arguments are the accepted ones, whatever they are called and wherever they are seen from. -/
lemma isAcceptable_iff (name : String) (cwd : Path) : arg.IsAcceptable ↔ ∃ p, arg.require name cwd = .ok p := by
  simp only [require_eq_ok_iff, given_eq_some_iff]
  constructor
  · intro ⟨t, hgives, hempty, hnul⟩
    exact ⟨_, hgives.isPathKind, t, hgives, hempty, hnul, rfl⟩
  · rintro ⟨p, -, t, hgives, hempty, hnul, -⟩
    exact ⟨t, hgives, hempty, hnul⟩

/-- What is said of an argument that gives a text. -/
lemma require_of_gives (h : arg.Gives t) (name : String) (cwd : Path) :
    arg.require name cwd =
      if t.isEmpty then .error (.empty name)
      else if t.contains '\x00' then .error (.nul name t)
      else .ok ((Path.ofText t).absolute cwd) := by
  unfold require
  rw [h.isPathKind, given_eq_some_iff.mpr h]
  rfl

/-- What gives a text is acceptable, or there is something to be said of the text. -/
lemma Gives.isAcceptable_or_hasFault (h : arg.Gives t) (name : String) :
    arg.IsAcceptable ∨ ∃ e, arg.HasFault name e := by
  by_cases hempty : t = []
  · rw [hempty] at h
    exact .inr ⟨_, .empty h⟩
  · by_cases hnul : '\x00' ∈ t
    · exact .inr ⟨_, .nul h hnul⟩
    · exact .inl ⟨t, h, hempty, hnul⟩

/-- An argument is acceptable, or something is to be said of it. -/
lemma isAcceptable_or_hasFault (arg : Argument) (name : String) : arg.IsAcceptable ∨ ∃ e, arg.HasFault name e := by
  cases arg with
  | text t => exact (Gives.text t).isAcceptable_or_hasFault name
  | path p => exact (Gives.path p).isAcceptable_or_hasFault name
  | bytes => exact .inr ⟨_, .kind rfl⟩
  | other v => exact .inr ⟨_, .kind rfl⟩
  | pathLike inner =>
    cases inner with
    | text t => exact (Gives.pathLike t).isAcceptable_or_hasFault name
    | bytes => exact .inr ⟨_, .bytes⟩
    | path p => exact .inr ⟨_, .brokenWord (by simp) (by simp)⟩
    | pathLike inner => exact .inr ⟨_, .brokenWord (by simp) (by simp)⟩
    | other v => exact .inr ⟨_, .brokenWord (by simp) (by simp)⟩

/-- What is to be said of an argument is what is raised for it. -/
lemma HasFault.require_eq {e : ArgumentError} (h : arg.HasFault name e) (cwd : Path) :
    arg.require name cwd = .error e := by
  cases h with
  | kind hkind =>
    unfold require
    rw [hkind]
    rfl
  | bytes => rfl
  | empty hgives => exact require_of_gives hgives name cwd
  | @nul _ t hgives hnul =>
    have hempty : t.isEmpty = false := List.isEmpty_eq_false_iff.mpr (List.ne_nil_of_mem hnul)
    rw [require_of_gives hgives, hempty, if_neg Bool.false_ne_true, if_pos (by simpa using hnul)]
  | @brokenWord inner htext hbytes =>
    cases inner with
    | text t => exact absurd rfl (htext t)
    | bytes => exact absurd rfl hbytes
    | path p => rfl
    | pathLike inner => rfl
    | other v => rfl

/-- An argument that gives a text keeps its word. -/
lemma Gives.not_breaksItsWord (h : arg.Gives t) : ¬ arg.BreaksItsWord := by
  rintro ⟨inner, hinner, htext, -⟩
  cases h with
  | text t => exact nomatch hinner
  | path p => exact nomatch hinner
  | pathLike t => exact htext t (Argument.pathLike.inj hinner).symm

/-- An argument is said to be an invalid path, unless it breaks its word. -/
lemma HasFault.isInvalidPath_iff {e : ArgumentError} (h : arg.HasFault name e) :
    e.isInvalidPath = true ↔ ¬ arg.BreaksItsWord := by
  cases h with
  | kind hkind =>
    refine ⟨fun _ ⟨inner, hinner, _⟩ => ?_, fun _ => rfl⟩
    rw [hinner] at hkind
    exact nomatch hkind
  | bytes => exact ⟨fun _ ⟨inner, hinner, _, hbytes⟩ => hbytes (Argument.pathLike.inj hinner).symm, fun _ => rfl⟩
  | empty hgives => exact ⟨fun _ => hgives.not_breaksItsWord, fun _ => rfl⟩
  | nul hgives => exact ⟨fun _ => hgives.not_breaksItsWord, fun _ => rfl⟩
  | brokenWord htext hbytes =>
    have hbroken : (Argument.pathLike _).BreaksItsWord := ⟨_, rfl, htext, hbytes⟩
    exact ⟨fun hinvalid => absurd hinvalid Bool.false_ne_true, fun hkept => absurd hbroken hkept⟩

end Argument

namespace Lookup

/-! ## Calls -/

/-- What a call does about some of its arguments, which are given with the names that they go by.  It raises for the
first one that is not acceptable, and then no scan is made ready; if there is none, it does not raise for that reason.
The path is said to be invalid, unless the argument breaks its word. -/
structure Checks {α : Type} (arguments : List (String × Argument)) (result : Except LookupError α)
    (scan : Option Scan) : Prop where
  accepts : (∀ argument ∈ arguments, argument.2.IsAcceptable) → ∀ e, result ≠ .error (.argument e)
  refuses : ∀ before name arg behind, arguments = before ++ (name, arg) :: behind →
    (∀ argument ∈ before, argument.2.IsAcceptable) → ¬ arg.IsAcceptable →
      ∃ e, result = .error (.argument e) ∧ arg.HasFault name e ∧ (e.isInvalidPath = true ↔ ¬ arg.BreaksItsWord) ∧
        scan = none

variable {α : Type} {result : Except LookupError α} {scan : Option Scan} {arguments : List (String × Argument)}
  {name : String} {arg : Argument}

lemma Checks.nil (h : ∀ e, result ≠ .error (.argument e)) : Checks [] result scan where
  accepts := fun _ => h
  refuses := fun before _ _ behind hnil => absurd hnil.symm (by simp)

/-- A call checks an argument and then others, if it raises for the first at once and checks the others otherwise. -/
lemma Checks.cons (cwd : Path)
    (hrefused : ∀ e, arg.require name cwd = .error e → result = .error (.argument e) ∧ scan = none)
    (haccepted : ∀ p, arg.require name cwd = .ok p → Checks arguments result scan) :
    Checks ((name, arg) :: arguments) result scan where
  accepts := by
    intro hall
    have harg : arg.IsAcceptable := hall (name, arg) List.mem_cons_self
    obtain ⟨p, hp⟩ := (Argument.isAcceptable_iff name cwd).mp harg
    exact (haccepted p hp).accepts fun argument hargument => hall argument (List.mem_cons_of_mem _ hargument)
  refuses := by
    intro before name' arg' behind harguments hbefore hnot
    rcases List.cons_eq_append_iff.mp harguments with ⟨rfl, hfirst⟩ | ⟨before', rfl, hrest⟩
    · obtain ⟨hfirst, -⟩ := List.cons.inj hfirst
      obtain ⟨rfl, rfl⟩ := Prod.mk.inj hfirst
      obtain ⟨e, hfault⟩ := (arg'.isAcceptable_or_hasFault name').resolve_left hnot
      obtain ⟨hresult, hscan⟩ := hrefused e (hfault.require_eq cwd)
      exact ⟨e, hresult, hfault, hfault.isInvalidPath_iff, hscan⟩
    · have harg : arg.IsAcceptable := hbefore (name, arg) List.mem_cons_self
      obtain ⟨p, hp⟩ := (Argument.isAcceptable_iff name cwd).mp harg
      exact (haccepted p hp).refuses before' name' arg' behind hrest
        (fun argument hargument => hbefore argument (List.mem_cons_of_mem _ hargument)) hnot

/-- A call checks two arguments, if it raises for the first at once, for the second when the first is accepted, and for
neither when both are. -/
lemma Checks.pair {name' : String} {arg' : Argument} (cwd : Path)
    (hrefused : ∀ e, arg.require name cwd = .error e → result = .error (.argument e) ∧ scan = none)
    (hrefused' : ∀ p e, arg.require name cwd = .ok p → arg'.require name' cwd = .error e →
      result = .error (.argument e) ∧ scan = none)
    (haccepted : ∀ p q, arg.require name cwd = .ok p → arg'.require name' cwd = .ok q →
      ∀ e, result ≠ .error (.argument e)) :
    Checks [(name, arg), (name', arg')] result scan := by
  apply Checks.cons cwd hrefused
  intro p hp
  apply Checks.cons cwd (fun e he => hrefused' p e hp he)
  exact fun q hq => .nil (haccepted p q hp hq)

/-! ## Lookups for paths -/

variable {around : Surroundings} {table : ExtensionTable} {scanner : Option Scanner} {file project : Path}

/-- The search for a header does not look at arguments any more. -/
lemma result_header_ne_argument (around : Surroundings) (table : ExtensionTable) (file : Path) (e : ArgumentError) :
    (header around table file).result ≠ .error (.argument e) := by
  unfold header Report.ofProbe
  dsimp only
  split <;> exact fun h => nomatch h

/-- A search within a time limit does not look at arguments any more. -/
lemma result_firstWithin_ne_argument (limit : TimeLimit) (search : Search) (notes : Journal) (e : ArgumentError) :
    (firstWithin limit search notes).result ≠ .error (.argument e) := by
  unfold firstWithin
  dsimp only
  split
  · exact fun h => nomatch h
  · split
    · exact fun h => nomatch h
    · exact fun h => nomatch h
    · exact fun h => nomatch h
    · split <;> exact fun h => nomatch h

/-- The search for a source does not look at arguments any more. -/
lemma result_source_ne_argument (around : Surroundings) (table : ExtensionTable) (scanner : Option Scanner)
    (limit : Option TimeLimit) (file project : Path) (e : ArgumentError) :
    (source around table scanner limit file project).result ≠ .error (.argument e) := by
  unfold source
  dsimp only
  split
  · exact fun h => nomatch h
  · exact fun h => nomatch h
  · show (searchSource around table scanner (limit.getD .default) file project).result ≠ _
    unfold searchSource
    split
    · exact fun h => nomatch h
    · split
      · exact fun h => nomatch h
      · exact result_firstWithin_ne_argument _ _ _ e

/-- A search without a limit does not look at arguments any more. -/
lemma result_firstOf_ne_argument (search : Search) (notes : Journal) (e : ArgumentError) :
    (firstOf search notes).result ≠ .error (.argument e) := by
  unfold firstOf
  dsimp only
  split <;> exact fun h => nomatch h

/-! ## Lookups for arguments -/

/-- The lookup of a header checks its one argument. -/
lemma checks_headerForSource (around : Surroundings) (table : ExtensionTable) (sourceArg : Argument) :
    Checks [("source", sourceArg)] (headerForSource around table sourceArg).result
      (headerForSource around table sourceArg).scan := by
  apply Checks.cons around.cwd
  · intro e he
    unfold headerForSource
    rw [he]
    exact ⟨rfl, rfl⟩
  · intro file hfile
    rw [headerForSource_eq hfile]
    exact .nil (result_header_ne_argument around table file)

/-- The lookup of a source checks the header and then the project, be there a sibling or not. -/
lemma checks_sourceForHeader (around : Surroundings) (table : ExtensionTable) (scanner : Option Scanner)
    (limit : Option TimeLimit) (headerArg projectArg : Argument) :
    Checks [("header", headerArg), ("project_root", projectArg)]
      (sourceForHeader around table scanner limit headerArg projectArg).result
      (sourceForHeader around table scanner limit headerArg projectArg).scan := by
  apply Checks.pair around.cwd
  · intro e he
    unfold sourceForHeader
    rw [he]
    exact ⟨rfl, rfl⟩
  · intro header e hheader he
    unfold sourceForHeader
    rw [hheader, he]
    exact ⟨rfl, rfl⟩
  · intro header project hheader hproject
    rw [sourceForHeader_eq hheader hproject]
    exact result_source_ne_argument around table scanner limit header project

/-- A search checks its arguments when it is made ready. -/
lemma checks_ofArguments (around : Surroundings) (table : ExtensionTable) (scanner : Option Scanner)
    (directives : List Text) (headerArg projectArg : Argument) :
    Checks [("header", headerArg), ("project_root", projectArg)]
      ((Search.ofArguments around headerArg projectArg table scanner directives).mapError LookupError.argument)
      ((Search.ofArguments around headerArg projectArg table scanner directives).toOption.map fun made =>
        made.1.scan) := by
  apply Checks.pair around.cwd
  · intro e he
    unfold Search.ofArguments
    rw [he]
    exact ⟨rfl, rfl⟩
  · intro header e hheader he
    unfold Search.ofArguments
    rw [hheader, he]
    exact ⟨rfl, rfl⟩
  · intro header project hheader hproject
    rw [Search.ofArguments_eq hheader hproject]
    exact fun e h => nomatch h

/-- The lookup of the first source that includes a header makes its search ready first. -/
lemma checks_firstIncludingSource (around : Surroundings) (table : ExtensionTable) (scanner : Option Scanner)
    (directives : List Text) (headerArg projectArg : Argument) :
    Checks [("header", headerArg), ("project_root", projectArg)]
      (firstIncludingSource around headerArg projectArg table scanner directives).result
      (firstIncludingSource around headerArg projectArg table scanner directives).scan := by
  apply Checks.pair around.cwd
  · intro e he
    unfold firstIncludingSource Search.ofArguments
    rw [he]
    exact ⟨rfl, rfl⟩
  · intro header e hheader he
    unfold firstIncludingSource Search.ofArguments
    rw [hheader, he]
    exact ⟨rfl, rfl⟩
  · intro header project hheader hproject
    unfold firstIncludingSource
    rw [Search.ofArguments_eq hheader hproject]
    exact result_firstOf_ne_argument _ _

section Companions

/-! ### Companions, by the role of their path -/

variable {fileArg : Argument} (scanner : Option Scanner) (limit : Option TimeLimit) (projectArg : Argument)

/-- A companion is looked up only for a path that is accepted. -/
lemma companion_of_refused {e : ArgumentError} (h : fileArg.require "path" around.cwd = .error e)
    (table : ExtensionTable) :
    companion around table scanner limit fileArg projectArg = .ofError (.argument e) := by
  unfold companion
  rw [h]

/-- The companion of a header is its source. -/
lemma companion_of_header (h : fileArg.require "path" around.cwd = .ok file) (hrole : table.role file.text = .header) :
    companion around table scanner limit fileArg projectArg
      = sourceForHeader around table scanner limit (.path file) projectArg := by
  unfold companion
  rw [h]
  dsimp only
  rw [hrole]

/-- The companion of a source is its header. -/
lemma companion_of_source (h : fileArg.require "path" around.cwd = .ok file) (hrole : table.role file.text = .source) :
    companion around table scanner limit fileArg projectArg = headerForSource around table (.path file) := by
  unfold companion
  rw [h]
  dsimp only
  rw [hrole]

/-- Any other file has no companion. -/
lemma companion_of_other (h : fileArg.require "path" around.cwd = .ok file) (hrole : table.role file.text = .other) :
    companion around table scanner limit fileArg projectArg = { result := .ok none } := by
  unfold companion
  rw [h]
  dsimp only
  rw [hrole]

end Companions

/-- The lookup of the companion of a header checks the path and then the project. -/
lemma checks_companion_header {fileArg : Argument} (hcwd : around.cwd.IsWorkingDirectory)
    (hrole : ∀ file, fileArg.require "path" around.cwd = .ok file → table.role file.text = .header)
    (scanner : Option Scanner) (limit : Option TimeLimit) (projectArg : Argument) :
    Checks [("path", fileArg), ("project_root", projectArg)]
      (companion around table scanner limit fileArg projectArg).result
      (companion around table scanner limit fileArg projectArg).scan := by
  apply Checks.pair around.cwd
  · intro e he
    rw [companion_of_refused scanner limit projectArg he]
    exact ⟨rfl, rfl⟩
  · intro file e hfile he
    rw [companion_of_header scanner limit projectArg hfile (hrole file hfile)]
    unfold sourceForHeader
    rw [require_again hcwd hfile "header", he]
    exact ⟨rfl, rfl⟩
  · intro file project hfile hproject
    rw [companion_of_header scanner limit projectArg hfile (hrole file hfile),
      sourceForHeader_eq (require_again hcwd hfile "header") hproject]
    exact result_source_ne_argument around table scanner limit file project

/-- The lookup of the companion of anything else checks nothing but the path. -/
lemma checks_companion_other {fileArg : Argument} (hcwd : around.cwd.IsWorkingDirectory)
    (hrole : ∀ file, fileArg.require "path" around.cwd = .ok file → table.role file.text ≠ .header)
    (scanner : Option Scanner) (limit : Option TimeLimit) (projectArg : Argument) :
    Checks [("path", fileArg)] (companion around table scanner limit fileArg projectArg).result
      (companion around table scanner limit fileArg projectArg).scan := by
  apply Checks.cons around.cwd
  · intro e he
    rw [companion_of_refused scanner limit projectArg he]
    exact ⟨rfl, rfl⟩
  · intro file hfile
    apply Checks.nil
    cases hkind : table.role file.text with
    | header => exact absurd hkind (hrole file hfile)
    | source =>
      rw [companion_of_source scanner limit projectArg hfile hkind,
        headerForSource_eq (require_again hcwd hfile "source")]
      exact result_header_ne_argument around table file
    | other =>
      rw [companion_of_other scanner limit projectArg hfile hkind]
      exact fun e h => nomatch h

/-- All lookups check all their arguments, and so does a search when it is made ready, but for one: the lookup of a
companion checks the project only for a header. -/
theorem lookups_checkArguments (hcwd : around.cwd.IsWorkingDirectory) (table : ExtensionTable)
    (scanner : Option Scanner) (limit : Option TimeLimit) (directives : List Text) (fileArg projectArg : Argument) :
    Checks [("source", fileArg)] (headerForSource around table fileArg).result
      (headerForSource around table fileArg).scan ∧
    Checks [("header", fileArg), ("project_root", projectArg)]
      (sourceForHeader around table scanner limit fileArg projectArg).result
      (sourceForHeader around table scanner limit fileArg projectArg).scan ∧
    Checks [("header", fileArg), ("project_root", projectArg)]
      ((Search.ofArguments around fileArg projectArg table scanner directives).mapError LookupError.argument)
      ((Search.ofArguments around fileArg projectArg table scanner directives).toOption.map fun made =>
        made.1.scan) ∧
    Checks [("header", fileArg), ("project_root", projectArg)]
      (firstIncludingSource around fileArg projectArg table scanner directives).result
      (firstIncludingSource around fileArg projectArg table scanner directives).scan ∧
    ((∀ file, fileArg.require "path" around.cwd = .ok file → table.role file.text = .header) →
      Checks [("path", fileArg), ("project_root", projectArg)]
        (companion around table scanner limit fileArg projectArg).result
        (companion around table scanner limit fileArg projectArg).scan) ∧
    ((∀ file, fileArg.require "path" around.cwd = .ok file → table.role file.text ≠ .header) →
      Checks [("path", fileArg)] (companion around table scanner limit fileArg projectArg).result
        (companion around table scanner limit fileArg projectArg).scan) := by
  refine ⟨?_, ?_, ?_, ?_, ?_, ?_⟩
  · exact checks_headerForSource around table fileArg
  · exact checks_sourceForHeader around table scanner limit fileArg projectArg
  · exact checks_ofArguments around table scanner directives fileArg projectArg
  · exact checks_firstIncludingSource around table scanner directives fileArg projectArg
  · exact fun hheader => checks_companion_header hcwd hheader scanner limit projectArg
  · exact fun hother => checks_companion_other hcwd hother scanner limit projectArg

/-- A source and its header. -/
def sourceAndHeader : Surroundings where
  fs := (FileSystem.empty.put (Path.ofText "/p/a.c".toList).components { entry := .file [] }).put
    (Path.ofText "/p/a.h".toList).components { entry := .file [] }
  cwd := Path.root

/-- Where the project is empty, the lookup of a source raises for it, though there is a sibling, and so does that of the
companion of a header; but that of the companion of a source finds it.  An argument that breaks its word is refused
otherwise than all others. -/
theorem lookups_checkArguments_emptyProject :
    sourceAndHeader.cwd.IsWorkingDirectory ∧
    (sourceForHeader sourceAndHeader .default none none (.text "/p/a.h".toList) (.text [])).result
      = .error (.argument (.empty "project_root")) ∧
    (companion sourceAndHeader .default none none (.text "/p/a.h".toList) (.text [])).result
      = .error (.argument (.empty "project_root")) ∧
    (companion sourceAndHeader .default none none (.text "/p/a.c".toList) (.text [])).result
      = .ok (some (Path.ofText "/p/a.h".toList)) ∧
    (∀ e, (companion sourceAndHeader .default none none (.text "/p/a.c".toList) (.text [])).result
      ≠ .error (.argument e)) ∧
    ∃ e, (headerForSource sourceAndHeader .default (.pathLike (.other (.int 5)))).result = .error (.argument e) ∧
      e.isInvalidPath = false := by
  have hcwd : sourceAndHeader.cwd.IsWorkingDirectory := by
    refine ⟨rfl, ?_⟩
    unfold Path.IsNulFree
    decide
  have hplain {t : Text} (hempty : t ≠ []) (hnul : '\x00' ∉ t) : (Argument.text t).IsAcceptable :=
    ⟨t, .text t, hempty, hnul⟩
  have hheader := hplain (t := "/p/a.h".toList) (by simp) (by simp)
  have hsource := hplain (t := "/p/a.c".toList) (by simp) (by simp)
  have hproject : ¬ (Argument.text []).IsAcceptable := by
    rintro ⟨t, hgives, hempty, -⟩
    cases hgives
    exact hempty rfl
  have hempty {e : ArgumentError} (h : (Argument.text []).HasFault "project_root" e) : e = .empty "project_root" := by
    cases h with
    | kind hkind => exact nomatch hkind
    | empty => rfl
    | nul hgives hnul =>
      cases hgives
      exact absurd hnul List.not_mem_nil
  have hbroken : (Argument.pathLike (.other (.int 5))).BreaksItsWord := ⟨_, rfl, by simp, by simp⟩
  have hrefused : ¬ (Argument.pathLike (.other (.int 5))).IsAcceptable := by
    rintro ⟨t, hgives, -⟩
    exact hgives.not_breaksItsWord hbroken
  have hpath : (Argument.text "/p/a.h".toList).require "path" sourceAndHeader.cwd
      = .ok (Path.ofText "/p/a.h".toList) := rfl
  have hpath' : (Argument.text "/p/a.c".toList).require "path" sourceAndHeader.cwd
      = .ok (Path.ofText "/p/a.c".toList) := rfl
  obtain ⟨-, hsourceFor, -, -, hboth, -⟩ := lookups_checkArguments hcwd .default none none Include.defaultDirectives
    (.text "/p/a.h".toList) (.text [])
  obtain ⟨-, -, -, -, -, hone⟩ := lookups_checkArguments hcwd .default none none Include.defaultDirectives
    (.text "/p/a.c".toList) (.text [])
  obtain ⟨hheaderFor, -⟩ := lookups_checkArguments hcwd .default none none Include.defaultDirectives
    (.pathLike (.other (.int 5))) (.text [])
  have hbefore {name : String} : ∀ argument ∈ [(name, Argument.text "/p/a.h".toList)], argument.2.IsAcceptable := by
    intro argument hargument
    rwa [List.mem_singleton.mp hargument]
  refine ⟨hcwd, ?_, ?_, by decide +kernel, ?_, ?_⟩
  · obtain ⟨e, hresult, hfault, -⟩ := hsourceFor.refuses _ "project_root" (.text []) [] rfl hbefore hproject
    rw [hresult, hempty hfault]
  · have hrole : ∀ file, (Argument.text "/p/a.h".toList).require "path" sourceAndHeader.cwd = .ok file →
        ExtensionTable.default.role file.text = .header := by
      intro file hfile
      obtain rfl := Except.ok.inj (hpath.symm.trans hfile)
      decide +kernel
    obtain ⟨e, hresult, hfault, -⟩ := (hboth hrole).refuses _ "project_root" (.text []) [] rfl hbefore hproject
    rw [hresult, hempty hfault]
  · have hrole : ∀ file, (Argument.text "/p/a.c".toList).require "path" sourceAndHeader.cwd = .ok file →
        ExtensionTable.default.role file.text ≠ .header := by
      intro file hfile
      obtain rfl := Except.ok.inj (hpath'.symm.trans hfile)
      decide +kernel
    refine (hone hrole).accepts fun argument hargument => ?_
    rwa [List.mem_singleton.mp hargument]
  · obtain ⟨e, hresult, -, hinvalid, -⟩ := hheaderFor.refuses [] "source" _ [] rfl
      (fun argument hargument => absurd hargument List.not_mem_nil) hrefused
    exact ⟨e, hresult, Bool.eq_false_iff.mpr fun h => hinvalid.mp h hbroken⟩

end Lookup

end Counterpart
