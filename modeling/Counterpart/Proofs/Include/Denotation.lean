import Counterpart.Proofs.Include.Matching
import Counterpart.Proofs.Pattern.Reading

/-!
# The text of the pattern denotes the grammar

`patternText` is the text that is written for a header, with every literal escaped.

* `source_linePattern`: it is the text of `linePattern`;
* `read?_linePattern`: whoever reads it gets `linePattern` back;
* `patternText_denotes_includeLines`: read as a pattern, it matches the include lines for the route and for the
  spellings that may ascend, and no other lines, and keeps the path of the line.
-/

namespace Counterpart.Include

open Pattern

/-! ## The text -/

/-- Alternatives that stand for themselves. -/
def alternativesText (ts : List Text) : Text := Text.join '|' (ts.map escapeLiteral)

/-- The part for some of the last directories, if there are any. -/
def directoryText (directories : List Text) : Text :=
  if directories.isEmpty then [] else "(?:".toList ++ alternativesText directories ++ ")?".toList

/-- The text of the pattern of the lines that include a header. -/
def patternText (route name : Text) (directives : List Text) : Text :=
  "^\\s*#(?:".toList ++ alternativesText directives ++ ")\\s+[\"<](?P<path>".toList ++ escapeLiteral route
    ++ "|(?P<relative>(?:\\.\\./)*".toList
    ++ directoryText (trailingDirectories (Text.beforeLast '/' route)) ++ escapeLiteral name
    ++ "))[\">]\\s*$".toList

/-- The text of a choice of literals is that of the alternatives. -/
lemma source_choice_literals (ts : List Text) : (choice (ts.map literal)).source = alternativesText ts := by
  induction ts with
  | nil => rfl
  | cons t ts ih =>
    by_cases hts : ts = []
    · subst hts
      simp [choice, source_literal, alternativesText, Text.join]
    · obtain ⟨u, us, rfl⟩ := List.exists_cons_of_ne_nil hts
      rw [List.map_cons, source_choice_cons (by simp), ih, source_literal]
      simp [alternativesText, Text.join, List.intercalate_cons_cons]

/-- The text of a route, character by character, is escaped. -/
lemma source_chars (t : Text) : (chars t).flatMap source = escapeLiteral t := by
  rw [← source_sequence]
  exact source_literal t

lemma source_directoryPart (directories : List Text) :
    (directoryPart directories).flatMap source = directoryText directories := by
  rw [directoryPart, directoryText]
  split
  · rfl
  · rw [List.flatMap_singleton, source_optional, source_group, source_choice_literals, List.append_assoc]
    rfl

/-- A relative route is written with the ways up, the last directories and the name. -/
lemma source_relativePattern (route name : Text) :
    (relativePattern route name).source = "(?:\\.\\./)*".toList
      ++ directoryText (trailingDirectories (Text.beforeLast '/' route)) ++ escapeLiteral name := by
  rw [relativePattern, source_sequence, List.cons_append, List.flatMap_cons, List.flatMap_append,
    source_directoryPart, source_chars, List.append_assoc]
  rfl

/-- The two groups are written one in the other. -/
lemma source_pathPattern (route name : Text) :
    (pathPattern route name).source
      = "(?P<path>".toList ++ escapeLiteral route ++ "|(?P<relative>".toList
        ++ (relativePattern route name).source ++ "))".toList := by
  -- the literals of the text are cut where the patterns are written one after the other
  have hpath : "(?P<path>".toList = "(?P<".toList ++ (pathGroup ++ ['>']) := by decide
  have hrelative : "|(?P<relative>".toList = '|' :: ("(?P<".toList ++ (relativeGroup ++ ['>'])) := by decide
  have hclose : "))".toList = [')', ')'] := by decide
  rw [pathPattern, hpath, hrelative, hclose]
  simp only [source_capture, source_either, source_literal, List.append_assoc, List.cons_append, List.nil_append]

/-- The text around the path, whatever the directives and the path are. -/
lemma source_around (directive path : Pattern) :
    (sequence [.lineStart, .repeated false [.blank], .atom (.char '#'), .group directive, .repeated true [.blank],
        .atom (.oneOf ['"', '<']), path, .atom (.oneOf ['"', '>']), .repeated false [.blank], .lineEnd]).source
      = "^\\s*#(?:".toList ++ directive.source ++ ")\\s+[\"<]".toList ++ path.source
        ++ "[\">]\\s*$".toList := by
  have hfront : "^\\s*#(?:".toList = Pattern.lineStart.source ++ ((Pattern.repeated false [.blank]).source
      ++ ((Pattern.atom (.char '#')).source ++ "(?:".toList)) := by decide
  have hmiddle : ")\\s+[\"<]".toList = [')'] ++ ((Pattern.repeated true [.blank]).source
      ++ (Pattern.atom (.oneOf ['"', '<'])).source) := by decide
  have hback : "[\">]\\s*$".toList = (Pattern.atom (.oneOf ['"', '>'])).source
      ++ ((Pattern.repeated false [.blank]).source ++ Pattern.lineEnd.source) := by decide
  rw [source_sequence, hfront, hmiddle, hback]
  simp only [List.flatMap_cons, List.flatMap_nil, source_group, List.append_assoc, List.append_nil]

/-- The text that writes the pattern, piece by piece. -/
lemma source_linePattern (route name : Text) (directives : List Text) :
    (linePattern route name directives).source = patternText route name directives := by
  have hpath : ")\\s+[\"<](?P<path>".toList = ")\\s+[\"<]".toList ++ "(?P<path>".toList := by decide
  have hrelative : "|(?P<relative>(?:\\.\\./)*".toList
      = "|(?P<relative>".toList ++ "(?:\\.\\./)*".toList := by decide
  have hend : "))[\">]\\s*$".toList = "))".toList ++ "[\">]\\s*$".toList := by decide
  have hparts := source_around (choice (directives.map literal)) (pathPattern route name)
  rw [source_choice_literals directives, source_pathPattern, source_relativePattern, pathPattern] at hparts
  unfold linePattern patternText
  simp only [hparts, hpath, hrelative, hend, List.append_assoc]

/-! ## Reading the text -/

lemma readsAsItem_of_mem_chars {t : Text} {p : Pattern} (h : p ∈ chars t) : ReadsAsItem p := by
  obtain ⟨c, -, rfl⟩ := List.mem_map.mp h
  exact readsAsItem_char c

/-- Alternatives in a group are read as they are written. -/
lemma readsAsItem_literals {ts : List Text} (hne : ts ≠ []) :
    ReadsAsItem (.group (choice (ts.map literal))) := by
  have hgroup := readsAsItem_group (ts.map chars) (by simpa using hne) (by
    intro ps hps p hp
    obtain ⟨t, -, rfl⟩ := List.mem_map.mp hps
    exact readsAsItem_of_mem_chars hp)
  rwa [List.map_map] at hgroup

/-- The group of a relative route is read as it is written. -/
lemma readsAsItem_relativePattern (route name : Text) :
    ReadsAsItem (.capture relativeGroup (relativePattern route name)) := by
  refine readsAsItem_capture (by decide) [_] (by simp) ?_
  intro ps hps p hp
  obtain rfl := List.mem_singleton.mp hps
  rw [List.cons_append, List.mem_cons, List.mem_append] at hp
  rcases hp with rfl | hp | hp
  · exact readsAsItem_repeated (fun c hc => by
      obtain ⟨d, -, rfl⟩ : ∃ d, d ∈ "../".toList ∧ c = .char d := by simpa using hc
      exact readsAsItem_char d) false
  · rw [directoryPart] at hp
    split at hp
    · exact absurd hp List.not_mem_nil
    · next hsome =>
      obtain rfl := List.mem_singleton.mp hp
      exact readsAsItem_optional_group (readsAsItem_literals (by simpa using hsome))
  · exact readsAsItem_of_mem_chars hp

/-- The group of the path as a whole is read as it is written. -/
lemma readsAsItem_pathPattern (route name : Text) : ReadsAsItem (pathPattern route name) := by
  refine readsAsItem_capture (by decide)
    [chars route, [.capture relativeGroup (relativePattern route name)]] (by simp) ?_
  intro ps hps p hp
  rcases List.mem_pair.mp hps with rfl | rfl
  · exact readsAsItem_of_mem_chars hp
  · obtain rfl := List.mem_singleton.mp hp
    exact readsAsItem_relativePattern route name

/-- The text of the pattern is read as the pattern. -/
lemma read?_linePattern (route name : Text) {directives : List Text} (hne : directives ≠ []) :
    read? (linePattern route name directives).source = some (linePattern route name directives) := by
  -- every item of the pattern is read as an item
  refine read?_source fun p hp => ?_
  simp only [List.mem_cons, List.not_mem_nil, or_false] at hp
  rcases hp with rfl | rfl | rfl | rfl | rfl | rfl | rfl | rfl | rfl | rfl
  · exact readsAsItem_lineStart
  · exact readsAsItem_repeated_single readsAsItem_blank false
  · exact readsAsItem_char '#'
  · exact readsAsItem_literals hne
  · exact readsAsItem_repeated_single readsAsItem_blank true
  · exact readsAsItem_oneOf (by decide)
  · exact readsAsItem_pathPattern route name
  · exact readsAsItem_oneOf (by decide)
  · exact readsAsItem_repeated_single readsAsItem_blank false
  · exact readsAsItem_lineEnd

/-! ## What the text denotes -/

/-- The group of the path keeps it, and the other one only if it is not the route itself. -/
lemma group?_of_keptGroups {route path : Text} {s : Cursor} (h : s.groups = keptGroups route path) :
    s.group? pathGroup = some path ∧ s.group? relativeGroup = if path = route then none else some path := by
  have hpath : (relativeGroup == pathGroup) = false := by decide
  have hrelative : (pathGroup == relativeGroup) = false := by decide
  unfold Cursor.group?
  rw [h, keptGroups]
  by_cases hroute : path = route
  · simp [hroute, hpath]
  · simp [hroute, List.lookup_cons, hpath]

/-- Read as a pattern, the text for a header matches a line from its beginning if and only if the line includes
the route or a spelling that may ascend.  The group for the path keeps the path of the line, and the group for
a relative spelling keeps it too, unless the path is the route. -/
theorem patternText_denotes_includeLines {route name : Text} {directives : List Text} (hne : directives ≠ [])
    (hwords : AreWords directives) :
    (linePattern route name directives).source = patternText route name directives ∧
    ∃ p, read? (patternText route name directives) = some p ∧
      ∀ line,
        ((p.match? line).isSome ↔
          ∃ path, IncludeLine directives line path ∧ (path = route ∨ IsAscending route name path)) ∧
        ∀ s path, p.match? line = some s → IncludeLine directives line path →
          s.group? pathGroup = some path ∧
            s.group? relativeGroup = if path = route then none else some path := by
  have hread := read?_linePattern route name hne
  rw [source_linePattern] at hread
  refine ⟨source_linePattern route name directives, _, hread, fun line => ⟨⟨?_, ?_⟩, ?_⟩⟩
  · intro h
    obtain ⟨s, hs⟩ := Option.isSome_iff_exists.mp h
    obtain ⟨path, hline, hpath, -⟩ := match?_spec hne hs
    exact ⟨path, hline, hpath⟩
  · intro ⟨path, hline, hpath⟩
    exact match?_isSome hne hline hpath
  · intro s path hs hline
    -- the path that the match has kept is the one that the line includes
    obtain ⟨path', hline', -, hgroups⟩ := match?_spec hne hs
    obtain rfl := hline'.path_unique hwords hline
    exact group?_of_keptGroups hgroups

/-- The pattern for one directive and a header with special characters in its name. -/
theorem patternText_denotes_use :
    ["use".toList] ≠ [] ∧ AreWords ["use".toList] ∧
    (linePattern "l/+.h".toList "+.h".toList ["use".toList]).source
        = "^\\s*#(?:use)\\s+[\"<](?P<path>l/\\+\\.h|(?P<relative>(?:\\.\\./)*(?:l/)?\\+\\.h))[\">]\\s*$".toList ∧
    ∃ p, read? (patternText "l/+.h".toList "+.h".toList ["use".toList]) = some p ∧
      ∀ line, (p.match? line).isSome ↔
        ∃ path, IncludeLine ["use".toList] line path ∧
          (path = "l/+.h".toList ∨ IsAscending "l/+.h".toList "+.h".toList path) := by
  have hwords : AreWords ["use".toList] := areWords_of_all (by decide)
  have hne : ["use".toList] ≠ [] := by decide
  obtain ⟨-, p, hread, hmatch⟩ := patternText_denotes_includeLines hne hwords
  exact ⟨hne, hwords, by decide +kernel, p, hread, fun line => (hmatch line).1⟩

end Counterpart.Include
