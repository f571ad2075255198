import Counterpart.Include.Query
import Counterpart.Proofs.Include.Denotation
import Counterpart.Proofs.Path.Normal
import Counterpart.Proofs.Text.Trim

/-!
# Acceptance

Which lines of which files a query accepts.

* `spelling?_iff`: what is read from a line is the path that the line includes;
* `accepts_iff_spelling` and `accepts_iff_includeLine`: a source is accepted for the route, for the bare name,
  and for a path that leads from its directory to the header, whichever of them comes first in the pattern;
* `accepts_forHeader`: the same for arguments as callers hand them in, together with where the route leads.
-/

namespace Counterpart

namespace Include

open Query

/-! ## Ends of lines -/

lemma isBlank_of_isLineEnd {c : Char} (h : isLineEnd c = true) : Text.isBlank c = true := by
  simp only [isLineEnd, Bool.or_eq_true, decide_eq_true_eq] at h
  rcases h with rfl | rfl <;> decide

lemma not_isLineEnd_closing {c : Char} (h : c = '"' ∨ c = '>') : isLineEnd c = false := by
  rcases h with rfl | rfl <;> decide

/-- Whether a line includes a path does not depend on how the line ends. -/
lemma includeLine_trimEnd {directives : List Text} {line path : Text} :
    IncludeLine directives (line.trimEnd isLineEnd) path ↔ IncludeLine directives line path := by
  constructor
  · intro h
    obtain ⟨ending, hline, hending⟩ := Text.exists_trimEnd isLineEnd line
    obtain ⟨margin, directive, gap, tail, opening, closing, htrim, hm, hd, hg, hgne, ho, hc, ht⟩ := h
    refine ⟨margin, directive, gap, tail ++ ending, opening, closing, ?_, hm, hd, hg, hgne, ho, hc, ?_⟩
    · rw [hline, htrim]
      simp only [List.append_assoc, List.cons_append]
    · intro c hmem
      rcases List.mem_append.mp hmem with hmem | hmem
      · exact ht c hmem
      · exact isBlank_of_isLineEnd (hending c hmem)
  · intro h
    obtain ⟨margin, directive, gap, tail, opening, closing, rfl, hm, hd, hg, hgne, ho, hc, ht⟩ := h
    -- nothing but blanks stands behind the closing quote, so nothing before it is cut off
    obtain ⟨ending, htail, -⟩ := Text.exists_trimEnd isLineEnd tail
    refine ⟨margin, directive, gap, tail.trimEnd isLineEnd, opening, closing, ?_, hm, hd, hg, hgne, ho, hc, ?_⟩
    · exact Text.trimEnd_append_cons _ _ (not_isLineEnd_closing hc)
    · intro c hmem
      exact ht c (by rw [htail]; exact List.mem_append_left _ hmem)

/-! ## Spellings -/

variable {route name line : Text} {directives : List Text}

lemma spelling?_relative (hne : directives ≠ []) {s : Spelling}
    (h : spelling? (linePattern route name directives) line = some s) :
    s.relative = if s.path = route then none else some s.path := by
  unfold spelling? at h
  simp only [Option.bind_eq_bind, Option.bind_eq_some_iff, Option.pure_def, Option.some.injEq] at h
  obtain ⟨cursor, hmatch, path, hpath, rfl⟩ := h
  obtain ⟨kept, -, -, hgroups⟩ := match?_spec hne hmatch
  obtain ⟨hkept, hrelative⟩ := group?_of_keptGroups hgroups
  obtain rfl : kept = path := Option.some.inj (hkept.symm.trans hpath)
  exact hrelative

/-- What is read from a line is the path that it includes. -/
lemma spelling?_iff (hne : directives ≠ []) (hwords : AreWords directives) {path : Text} :
    (∃ s, spelling? (linePattern route name directives) line = some s ∧ s.path = path) ↔
      IncludeLine directives line path ∧ (path = route ∨ IsAscending route name path) := by
  unfold spelling?
  constructor
  · intro ⟨s, hs, hpath⟩
    simp only [Option.bind_eq_bind, Option.bind_eq_some_iff, Option.pure_def, Option.some.injEq] at hs
    obtain ⟨cursor, hmatch, kept, hkept, rfl⟩ := hs
    obtain ⟨path', hline, hspelled, hgroups⟩ := match?_spec hne hmatch
    obtain rfl : path' = kept := Option.some.inj ((group?_of_keptGroups hgroups).1.symm.trans hkept)
    subst hpath
    exact ⟨hline, hspelled⟩
  · intro ⟨hline, hspelled⟩
    -- the line matches, and what the match has kept is the one path that the line includes
    obtain ⟨cursor, hmatch⟩ := Option.isSome_iff_exists.mp (match?_isSome hne hline hspelled)
    obtain ⟨path', hline', -, hgroups⟩ := match?_spec hne hmatch
    obtain rfl := hline.path_unique hwords hline'
    refine ⟨⟨path, cursor.group? relativeGroup⟩, ?_, rfl⟩
    rw [hmatch, Option.bind_eq_bind, Option.bind_some, (group?_of_keptGroups hgroups).1]
    rfl

/-! ## Accepted lines -/

namespace Query

variable {header project cwd : Path} {table : ExtensionTable} {file : Path}

/-- A source is accepted for a line from which the route or the name is read, or a path that leads from the
source's directory to the header. -/
lemma accepts_iff_spelling (hne : directives ≠ []) :
    (forHeader header project cwd directives).accepts table file line = true ↔
      table.role file.text = .source ∧
        ∃ s, spelling? (forHeader header project cwd directives).pattern (line.trimEnd isLineEnd) = some s ∧
          (s.path = (header.relativeTo project cwd).text ∨ s.path = header.name ∨
            (file.parent.join (Path.ofText s.path)).normal = header) := by
  unfold accepts
  rw [Bool.and_eq_true, decide_eq_true_eq]
  refine and_congr_right fun _ => ?_
  cases hs : spelling? (forHeader header project cwd directives).pattern (line.trimEnd isLineEnd) with
  | none => simp
  | some s =>
    have hrelative := spelling?_relative hne hs
    simp only [Option.some.injEq, exists_eq_left']
    -- the route is accepted as it is; any other spelling was read as a relative one
    by_cases hroute : s.path = (header.relativeTo project cwd).text
    · rw [if_pos hroute] at hrelative
      simp [hrelative, hroute]
    · rw [if_neg hroute] at hrelative
      simp only [hrelative, hroute, leadsToHeader, Bool.or_eq_true, decide_eq_true_eq, false_or]
      exact Iff.rfl

/-- A source is accepted for the lines that include the route, the name, or a spelling that may ascend and leads
from the source's directory to the header. -/
lemma accepts_iff_includeLine (hne : directives ≠ []) (hwords : AreWords directives) :
    (forHeader header project cwd directives).accepts table file line = true ↔
      table.role file.text = .source ∧
        ∃ path, IncludeLine directives line path ∧
          (path = (header.relativeTo project cwd).text ∨ path = header.name ∨
            (IsAscending (header.relativeTo project cwd).text header.name path ∧
              (file.parent.join (Path.ofText path)).normal = header)) := by
  rw [accepts_iff_spelling hne]
  refine and_congr_right fun _ => ?_
  have hread (path : Text) :
      (∃ s, spelling? (forHeader header project cwd directives).pattern (Text.trimEnd isLineEnd line) = some s ∧
        s.path = path) ↔ _ := spelling?_iff hne hwords
  constructor
  · intro ⟨s, hs, haccepted⟩
    obtain ⟨hline, hspelled⟩ := (hread s.path).mp ⟨s, hs, rfl⟩
    refine ⟨s.path, includeLine_trimEnd.1 hline, ?_⟩
    rcases haccepted with h | h | h
    · exact .inl h
    · exact .inr (.inl h)
    · exact hspelled.imp_right fun hascending => .inr ⟨hascending, h⟩
  · intro ⟨path, hline, haccepted⟩
    -- the bare name ascends nowhere
    have hspelled : path = (header.relativeTo project cwd).text ∨
        IsAscending (header.relativeTo project cwd).text header.name path := by
      rcases haccepted with h | h | h
      · exact .inl h
      · exact .inr ⟨0, [], .inl rfl, h⟩
      · exact .inr h.1
    obtain ⟨s, hs, rfl⟩ := (hread path).mpr ⟨includeLine_trimEnd.2 hline, hspelled⟩
    exact ⟨s, hs, haccepted.imp_right (Or.imp_right And.right)⟩

lemma accepts_append_lineEnds (query : Query) {ending : Text} (h : ∀ c ∈ ending, isLineEnd c = true) :
    query.accepts table file (line ++ ending) = query.accepts table file line := by
  unfold accepts
  rw [Text.trimEnd_append line h]

/-- The query for an accepted header in an accepted project: its route leads from the project to the header, it
accepts a source for exactly the spellings that mean the header, and how a line ends does not matter. -/
theorem accepts_forHeader {headerArg projectArg : Argument} {headerName projectName : String}
    (hcwd : cwd.isAbsolute = true) (hheader : headerArg.require headerName cwd = .ok header)
    (hproject : projectArg.require projectName cwd = .ok project) (table : ExtensionTable) (file : Path)
    (line : Text) :
    (header.anchor = project.anchor →
      (project.join (Path.ofText (header.relativeTo project cwd).text)).normal = header) ∧
    ((forHeader header project cwd).accepts table file line = true ↔
      table.role file.text = .source ∧
        ∃ s, spelling? (forHeader header project cwd).pattern (line.trimEnd isLineEnd) = some s ∧
          (s.path = (header.relativeTo project cwd).text ∨ s.path = header.name ∨
            (file.parent.join (Path.ofText s.path)).normal = header)) ∧
    ∀ ending : Text, (∀ c ∈ ending, isLineEnd c = true) →
      (forHeader header project cwd).accepts table file (line ++ ending)
        = (forHeader header project cwd).accepts table file line := by
  have hnormal := Argument.isNormal_of_require hcwd hheader
  have hbase := Argument.isNormal_of_require hcwd hproject
  refine ⟨fun hanchor => ?_, accepts_iff_spelling (by decide), fun ending hending => ?_⟩
  · rw [Path.ofText_text]
    exact Path.normal_join_relativeTo hnormal hbase cwd hanchor
  · exact accepts_append_lineEnds _ hending

/-- A source beside a header that goes up and down again to include it. -/
theorem accepts_ascending :
    Path.root.isAbsolute = true ∧
    (Argument.text "/p/lib/a.h".toList).require "header" Path.root = .ok (Path.ofText "/p/lib/a.h".toList) ∧
    (Argument.text "/p".toList).require "project_root" Path.root = .ok (Path.ofText "/p".toList) ∧
    (forHeader (Path.ofText "/p/lib/a.h".toList) (Path.ofText "/p".toList) Path.root).accepts .default
      (Path.ofText "/p/lib/b.c".toList) "#include \"../lib/a.h\"\r\n".toList = true := by
  have hheader : (Argument.text "/p/lib/a.h".toList).require "header" Path.root
      = .ok (Path.ofText "/p/lib/a.h".toList) := rfl
  have hproject : (Argument.text "/p".toList).require "project_root" Path.root
      = .ok (Path.ofText "/p".toList) := rfl
  have haccepts := accepts_forHeader (by decide) hheader hproject .default (Path.ofText "/p/lib/b.c".toList)
    "#include \"../lib/a.h\"\r\n".toList
  refine ⟨by decide, hheader, hproject, haccepts.2.1.mpr ⟨by decide +kernel, ?_⟩⟩
  exact ⟨⟨"../lib/a.h".toList, some "../lib/a.h".toList⟩, by decide +kernel, .inr (.inr (by decide +kernel))⟩

end Query

end Include

end Counterpart
