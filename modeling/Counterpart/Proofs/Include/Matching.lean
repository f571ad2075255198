import Counterpart.Proofs.Include.Line
import Counterpart.Proofs.Pattern.Language

/-!
# Matches of the pattern of an include line

`linePattern` is cut at the path: what stands before it and behind it are recognized by languages of their own,
and the path is read by the first of two alternatives that lets the rest of the line match.

* `mem_front` and `mem_back` say what the parts around the path read;
* `match?_spec` says what a match has kept, `match?_isSome` when there is one.
-/

open Computability

namespace Counterpart.Include

open Pattern

/-! ## Languages of the parts -/

lemma mem_blanks {t : Text} : t ∈ (runLanguage [.blank])∗ ↔ AllBlank t := by
  rw [runLanguage_singleton, Language.mem_kstar]
  constructor
  · intro hparts c hc
    obtain ⟨pieces, rfl, h⟩ := hparts
    obtain ⟨piece, hpiece, hcpiece⟩ := List.mem_flatten.mp hc
    obtain ⟨d, hd, rfl⟩ := h piece hpiece
    rw [List.mem_singleton.mp hcpiece]
    exact hd
  · intro h
    refine ⟨t.map ([·]), (List.flatMap_singleton' t).symm, fun y hy => ?_⟩
    obtain ⟨c, hc, rfl⟩ := List.mem_map.mp hy
    exact ⟨c, h c hc, rfl⟩

lemma mem_blanks_once {t : Text} :
    t ∈ runLanguage [.blank] * (runLanguage [.blank])∗ ↔ AllBlank t ∧ t ≠ [] := by
  constructor
  · intro h
    refine ⟨mem_blanks.1 (mem_kstar_iff.2 (.inr h)), ?_⟩
    intro heq
    subst heq
    obtain ⟨u, hu, v, -, huv⟩ := Language.mem_mul.mp h
    rw [(List.append_eq_nil_iff.mp huv).1] at hu
    exact nil_notMem_runLanguage (by simp) hu
  · intro ⟨h, hne⟩
    exact (mem_kstar_iff.1 (mem_blanks.2 h)).resolve_left hne

lemma mem_ascents {t : Text} : t ∈ (runLanguage [.char '.', .char '.', .char '/'])∗ ↔ ∃ k, t = ascents k := by
  have hunit : runLanguage [.char '.', .char '.', .char '/'] = {"../".toList} := runLanguage_chars "../".toList
  rw [hunit, Language.mem_kstar]
  constructor
  · intro hparts
    obtain ⟨pieces, rfl, h⟩ := hparts
    exact ⟨pieces.length, by rw [ascents, ← List.eq_replicate_of_mem h]⟩
  · intro hparts
    obtain ⟨k, rfl⟩ := hparts
    exact ⟨_, rfl, fun y hy => List.eq_of_mem_replicate hy⟩

/-- The spellings of a header that may ascend. -/
def ascendingLanguage (route name : Text) : Language Char := {t | IsAscending route name t}

lemma recognizes_relativePattern (route name : Text) :
    Recognizes (relativePattern route name) (ascendingLanguage route name) := by
  have hascents : Recognizes (.repeated false [.char '.', .char '.', .char '/']) _ :=
    recognizes_repeated (by simp)
  rw [relativePattern, directoryPart]
  split
  · next hnone =>
    -- there are no directories to spell
    refine (hascents.sequence_cons (recognizes_literal name)).congr fun t => ?_
    rw [Language.mem_mul]
    constructor
    · intro hparts
      obtain ⟨a, ha, _, rfl, rfl⟩ := hparts
      obtain ⟨k, rfl⟩ := mem_ascents.1 ha
      exact ⟨k, [], .inl rfl, by rw [List.append_nil]⟩
    · intro hparts
      obtain ⟨k, u, hu, rfl⟩ := hparts
      rcases isTrailing_iff.1 hu with rfl | hu
      · exact ⟨ascents k, mem_ascents.2 ⟨k, rfl⟩, name, rfl, by rw [List.append_nil]⟩
      · rw [List.isEmpty_iff.mp hnone] at hu
        exact absurd hu List.not_mem_nil
  · next hsome =>
    -- some of the directories may stand before the name, or none
    have hdirectories := (recognizes_choice_literals (by simpa using hsome)).group.optional
    refine (hascents.sequence_cons (hdirectories.sequence_cons (recognizes_literal name))).congr fun t => ?_
    rw [Language.mem_mul]
    constructor
    · intro hparts
      obtain ⟨a, ha, _, ⟨u, hu, _, rfl, rfl⟩, rfl⟩ := hparts
      obtain ⟨k, rfl⟩ := mem_ascents.1 ha
      exact ⟨k, u, isTrailing_iff.2 (Or.symm hu), by simp only [List.append_assoc]⟩
    · intro hparts
      obtain ⟨k, u, hu, rfl⟩ := hparts
      refine ⟨ascents k, mem_ascents.2 ⟨k, rfl⟩, u ++ name, ?_, by simp only [List.append_assoc]⟩
      exact Language.append_mem_mul (isTrailing_iff.1 hu).symm rfl

/-! ## Around the path -/

/-- The items before the path. -/
def lineFront (directives : List Text) : List Pattern :=
  [.repeated false [.blank], .atom (.char '#'), .group (.choice (directives.map .literal)),
    .repeated true [.blank], .atom (.oneOf ['"', '<'])]

/-- The items behind the path. -/
def lineBack : List Pattern := [.atom (.oneOf ['"', '>']), .repeated false [.blank], .lineEnd]

/-- The item of the path. -/
def pathPattern (route name : Text) : Pattern :=
  .capture pathGroup (.either (.literal route) (.capture relativeGroup (relativePattern route name)))

lemma cursors_linePattern (route name line : Text) (directives : List Text) :
    (linePattern route name directives).cursors (Cursor.start line)
      = ((sequence (lineFront directives)).cursors (Cursor.start line)).flatMap fun a =>
          ((pathPattern route name).cursors a).flatMap (sequence lineBack).cursors := by
  have hsplit : linePattern route name directives
      = sequence (.lineStart :: (lineFront directives ++ pathPattern route name :: lineBack)) := rfl
  have hstart : Pattern.lineStart.cursors (Cursor.start line) = [Cursor.start line] := rfl
  rw [hsplit, cursors_sequence_cons, hstart, List.flatMap_singleton, cursors_sequence_append]
  exact congrArg (List.flatMap · _) (funext (cursors_sequence_cons _ _))

lemma mem_front {directives : List Text} (hne : directives ≠ []) {r a : Cursor} :
    a ∈ (sequence (lineFront directives)).cursors r ↔
      ∃ (margin directive gap : Text) (opening : Char),
        r.Reads (margin ++ '#' :: directive ++ gap ++ [opening]) a ∧
        AllBlank margin ∧ directive ∈ directives ∧ AllBlank gap ∧ gap ≠ [] ∧
        (opening = '"' ∨ opening = '<') := by
  have hfront : Recognizes (sequence (lineFront directives)) _ :=
    (recognizes_repeated (by simp)).sequence_cons <|
      (recognizes_atom _).sequence_cons <|
      (recognizes_choice_literals hne).group.sequence_cons <|
      (recognizes_repeated_once (by simp)).sequence_cons <|
      (recognizes_atom _).sequence_cons recognizes_empty
  rw [hfront r a]
  constructor
  · rintro ⟨_, hparts, hread⟩
    -- the text falls into one part for each item
    obtain ⟨margin, hm, _, ⟨_, ⟨_, hhash, rfl⟩, _, ⟨directive, hd, _, ⟨gap, hg, _,
      ⟨_, ⟨opening, ho, rfl⟩, _, rfl, rfl⟩, rfl⟩, rfl⟩, rfl⟩, rfl⟩ := hparts
    obtain rfl : _ = '#' := by simpa [Atom.takes] using hhash
    obtain ⟨hgap, hgne⟩ := mem_blanks_once.1 hg
    refine ⟨margin, directive, gap, opening, by simpa using hread, mem_blanks.1 hm, hd, hgap, hgne, ?_⟩
    simpa [Atom.takes] using ho
  · rintro ⟨margin, directive, gap, opening, hread, hm, hd, hg, hgne, ho⟩
    refine ⟨_, ?_, hread⟩
    simp only [List.append_assoc, List.cons_append]
    refine Language.append_mem_mul (mem_blanks.2 hm) ?_
    refine Language.append_mem_mul (a := ['#']) ⟨'#', by simp [Atom.takes], rfl⟩ ?_
    refine Language.append_mem_mul hd ?_
    refine Language.append_mem_mul (mem_blanks_once.2 ⟨hg, hgne⟩) ?_
    rw [mul_one]
    exact ⟨opening, by simpa [Atom.takes] using ho, rfl⟩

lemma mem_back {b s : Cursor} :
    s ∈ (sequence lineBack).cursors b ↔
      ∃ (closing : Char) (tail : Text), b.Reads (closing :: tail) s ∧
        (closing = '"' ∨ closing = '>') ∧ AllBlank tail ∧ (s.ahead = [] ∨ s.ahead = ['\n']) := by
  have hback : Recognizes (sequence [.atom (.oneOf ['"', '>']), .repeated false [.blank]]) _ :=
    (recognizes_atom _).sequence_cons ((recognizes_repeated (by simp)).sequence_cons recognizes_empty)
  have hsplit : lineBack = [.atom (.oneOf ['"', '>']), .repeated false [.blank]] ++ [.lineEnd] := rfl
  rw [hsplit, cursors_sequence_append, List.mem_flatMap]
  constructor
  · rintro ⟨m, hm, hs⟩
    obtain ⟨_, ⟨_, ⟨closing, hc, rfl⟩, _, ⟨tail, ht, _, rfl, rfl⟩, rfl⟩, hread⟩ := (hback b m).mp hm
    change s ∈ Pattern.lineEnd.cursors m at hs
    rw [cursors_lineEnd] at hs
    split at hs
    · next hend =>
      obtain rfl := List.mem_singleton.mp hs
      exact ⟨closing, tail, by simpa using hread, by simpa [Atom.takes] using hc, mem_blanks.1 ht, hend⟩
    · exact absurd hs List.not_mem_nil
  · rintro ⟨closing, tail, hread, hc, ht, hend⟩
    refine ⟨s, (hback b s).mpr ⟨_, ?_, hread⟩, ?_⟩
    · refine Language.append_mem_mul (a := [closing]) ⟨closing, by simpa [Atom.takes] using hc, rfl⟩ ?_
      rw [mul_one]
      exact mem_blanks.2 ht
    · show s ∈ Pattern.lineEnd.cursors s
      rw [cursors_lineEnd, if_pos hend]
      exact List.mem_singleton_self s

/-! ## Matches -/

variable {route name line : Text} {directives : List Text}

/-- A line read up to its path, past the path and past the rest is an include line. -/
lemma includeLine_of_reads (hne : directives ≠ []) {path : Text} {a b c s : Cursor}
    (ha : a ∈ (sequence (lineFront directives)).cursors (Cursor.start line)) (hab : a.Reads path b)
    (hc : c.ahead = b.ahead) (hs : s ∈ (sequence lineBack).cursors c) :
    IncludeLine directives line path := by
  obtain ⟨margin, directive, gap, opening, hstart, hm, hd, hg, hgne, ho⟩ := (mem_front hne).mp ha
  obtain ⟨closing, tail, hread, hclosing, htail, hend⟩ := mem_back.1 hs
  refine ⟨margin, directive, gap, tail ++ s.ahead, opening, closing, ?_, hm, hd, hg, hgne, ho, hclosing, ?_⟩
  · have hline : line = _ := hstart.ahead
    rw [hline, hab.ahead, ← hc, hread.ahead]
    simp only [List.append_assoc, List.cons_append, List.nil_append]
  · intro x hx
    -- behind the path come blanks, and a line feed at most
    rcases List.mem_append.mp hx with hx | hx
    · exact htail x hx
    · rcases hend with h | h
      · rw [h] at hx
        exact absurd hx List.not_mem_nil
      · rw [h, List.mem_singleton] at hx
        subst hx
        decide

/-- The groups that a match of an include line for `path` has kept. -/
def keptGroups (route path : Text) : List (Text × Text) :=
  if path = route then [(pathGroup, path)] else [(pathGroup, path), (relativeGroup, path)]

lemma groups_of_mem_back {b s : Cursor} (h : s ∈ (sequence lineBack).cursors b) : s.groups = b.groups := by
  obtain ⟨_, _, hread, -⟩ := mem_back.1 h
  exact hread.groups

/-- Whether the rest of a line matches depends on nothing but what is ahead. -/
lemma exists_mem_back {b c s : Cursor} (hahead : c.ahead = b.ahead)
    (h : s ∈ (sequence lineBack).cursors b) : ∃ s', s' ∈ (sequence lineBack).cursors c := by
  obtain ⟨closing, tail, hread, hc, ht, hend⟩ := mem_back.1 h
  obtain ⟨s', hread', hs'⟩ := Cursor.exists_reads (hahead.trans hread.ahead)
  exact ⟨s', mem_back.2 ⟨closing, tail, hread', hc, ht, by rwa [hs']⟩⟩

/-- What a match has kept: the path of the line, as a relative spelling unless it is the route. -/
lemma match?_spec (hne : directives ≠ []) {s : Cursor}
    (h : (linePattern route name directives).match? line = some s) :
    ∃ path, IncludeLine directives line path ∧ (path = route ∨ IsAscending route name path) ∧
      s.groups = keptGroups route path := by
  -- the path begins at the first place behind the front from which the rest can be read
  rw [Pattern.match?, cursors_linePattern, List.head?_flatMap] at h
  obtain ⟨a, ha, h⟩ := List.exists_of_findSome?_eq_some h
  have hgroups : a.groups = [] := by
    obtain ⟨_, _, _, _, hread, -⟩ := (mem_front hne).mp ha
    exact hread.groups
  rw [pathPattern, cursors_capture_either, List.flatMap_append, List.head?_append] at h
  cases hroute : (((capture pathGroup (literal route)).cursors a).flatMap
      (sequence lineBack).cursors).head? with
  | some s' =>
    -- the route has been read
    rw [hroute, Option.some_or] at h
    obtain rfl : s' = s := Option.some.inj h
    obtain ⟨b, hb, hs⟩ := List.mem_flatMap.mp (List.mem_of_head? hroute)
    obtain ⟨path, hpath, m, ham, rfl⟩ := (mem_cursors_capture (recognizes_literal route)).mp hb
    have hpath : path = route := hpath
    subst path
    refine ⟨route, includeLine_of_reads hne ha ham (by rfl) hs, .inl rfl, ?_⟩
    rw [groups_of_mem_back hs, Cursor.keep, ham.groups, hgroups, keptGroups, if_pos rfl]
  | none =>
    -- a relative spelling has been read
    rw [hroute, Option.none_or] at h
    obtain ⟨b, hb, hs⟩ := List.mem_flatMap.mp (List.mem_of_head? h)
    obtain ⟨path, hpath, m, ham, rfl⟩ :=
      (mem_cursors_capture_capture (recognizes_relativePattern route name)).mp hb
    have hother : path ≠ route := by
      -- otherwise the first alternative would have let the line match
      intro heq
      subst heq
      obtain ⟨s', hs'⟩ := exists_mem_back (c := m.keep pathGroup path) (by rfl) hs
      have hfirst : m.keep pathGroup path ∈ (capture pathGroup (literal path)).cursors a :=
        (mem_cursors_capture (recognizes_literal path)).mpr ⟨path, rfl, m, ham, rfl⟩
      have hnil := List.head?_eq_none_iff.mp hroute
      exact absurd (List.mem_flatMap.mpr ⟨_, hfirst, hs'⟩) (by rw [hnil]; exact List.not_mem_nil)
    refine ⟨path, includeLine_of_reads hne ha ham (by rfl) hs, .inr hpath, ?_⟩
    rw [groups_of_mem_back hs]
    simp only [Cursor.keep, ham.groups, hgroups, keptGroups, if_neg hother]

/-- An include line for the route or for a spelling that may ascend is matched. -/
lemma match?_isSome (hne : directives ≠ []) {path : Text} (h : IncludeLine directives line path)
    (hpath : path = route ∨ IsAscending route name path) :
    ((linePattern route name directives).match? line).isSome := by
  obtain ⟨margin, directive, gap, tail, opening, closing, rfl, hm, hd, hg, hgne, ho, hc, ht⟩ := h
  -- the line is read in three steps: up to the path, past it, and to the end
  have hline : (Cursor.start (margin ++ '#' :: directive ++ gap ++ opening :: path ++ closing :: tail)).ahead
      = (margin ++ '#' :: directive ++ gap ++ [opening]) ++ (path ++ closing :: tail) := by
    simp [Cursor.start]
  obtain ⟨a, ha, haahead⟩ := Cursor.exists_reads hline
  obtain ⟨m, ham, hmahead⟩ := Cursor.exists_reads haahead
  obtain ⟨s, hms, hsahead⟩ := Cursor.exists_reads (hmahead.trans (List.append_nil _).symm)
  have hfront := (mem_front hne).mpr ⟨margin, directive, gap, opening, ha, hm, hd, hg, hgne, ho⟩
  have hback : s ∈ (sequence lineBack).cursors m := mem_back.2 ⟨closing, tail, hms, hc, ht, .inl hsahead⟩
  -- one of the alternatives reads the path
  obtain ⟨b, hb, hbahead⟩ : ∃ b ∈ (pathPattern route name).cursors a, b.ahead = m.ahead := by
    rw [pathPattern, cursors_capture_either]
    rcases hpath with rfl | hpath
    · exact ⟨_, List.mem_append_left _ ((mem_cursors_capture (recognizes_literal path)).mpr
        ⟨path, rfl, m, ham, rfl⟩), rfl⟩
    · exact ⟨_, List.mem_append_right _ ((mem_cursors_capture_capture
        (recognizes_relativePattern route name)).mpr ⟨path, hpath, m, ham, rfl⟩), rfl⟩
  obtain ⟨s', hs'⟩ := exists_mem_back hbahead hback
  rw [Pattern.match?, cursors_linePattern, List.isSome_head?]
  exact List.ne_nil_of_mem (List.mem_flatMap.mpr ⟨a, hfront, List.mem_flatMap.mpr ⟨b, hb, hs'⟩⟩)

end Counterpart.Include
