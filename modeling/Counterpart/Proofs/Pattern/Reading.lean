import Counterpart.Pattern.Reader
import Mathlib.Tactic.Lemma

/-!
# Reading back the text of a pattern

`Pattern.source` writes a pattern, `Pattern.read?` reads one.  This file shows that reading undoes writing, one
kind of item at a time:

* `ReadsAsItem p` says that the text of `p`, met where items stand, adds the item `p` to the level at hand;
* each kind of item has its lemma, and those of groups rest on `read_choice`, which reads alternatives;
* `read?_source` puts the items of a whole pattern together.
-/

namespace Counterpart.Pattern

/-- The text of `p` adds the item `p` to the level at hand. -/
def ReadsAsItem (p : Pattern) : Prop :=
  ∀ level outer, p.source.foldlM Reading.step? ⟨.items, level, outer⟩ = some ⟨.items, level.push p, outer⟩

variable {level : Level} {outer : List (Opening × Level)}

/-! ## Texts -/

lemma source_group (p : Pattern) : (group p).source = "(?:".toList ++ p.source ++ [')'] := rfl

lemma source_capture (name : Text) (p : Pattern) :
    (capture name p).source = "(?P<".toList ++ name ++ '>' :: p.source ++ [')'] := rfl

lemma source_either (p q : Pattern) : (either p q).source = p.source ++ '|' :: q.source := rfl

lemma source_optional (p : Pattern) : (optional p).source = p.source ++ ['?'] := rfl

lemma source_repeated (once : Bool) (a b : Atom) (unit : List Atom) :
    (repeated once (a :: b :: unit)).source
      = "(?:".toList ++ (a :: b :: unit).flatMap Atom.source ++ [')', if once then '+' else '*'] := rfl

lemma source_sequence (ps : List Pattern) : (sequence ps).source = ps.flatMap source := by
  induction ps with
  | nil => rfl
  | cons p ps ih =>
    cases ps with
    | nil => simp [sequence]
    | cons q ps =>
      show p.source ++ (sequence (q :: ps)).source = _
      rw [ih, ← List.flatMap_cons]

lemma source_literal (t : Text) : (literal t).source = escapeLiteral t := by
  rw [literal, source_sequence, chars, List.flatMap_map]
  have hchar (c : Char) : (Pattern.atom (.char c)).source = if c ∈ specialChars then ['\\', c] else [c] :=
    List.append_nil _
  exact congrArg (List.flatMap · t) (funext hchar)

/-- The texts of alternatives stand one after the other, with bars between them. -/
lemma source_choice_cons {p : Pattern} {ps : List Pattern} (h : ps ≠ []) :
    (choice (p :: ps)).source = p.source ++ '|' :: (choice ps).source := by
  cases ps with
  | nil => exact absurd rfl h
  | cons q ps => rfl

/-! ## Single items -/

/-- The sign for the start of a line is read as it. -/
lemma readsAsItem_lineStart : ReadsAsItem .lineStart := by
  intro level outer
  rfl

/-- The sign for the end of a line is read as it. -/
lemma readsAsItem_lineEnd : ReadsAsItem .lineEnd := by
  intro level outer
  rfl

/-- The sign for a blank is read as it. -/
lemma readsAsItem_blank : ReadsAsItem (.atom .blank) := by
  intro level outer
  rfl

/-- A character without a meaning of its own is read as itself. -/
lemma step?_plain {c : Char} (h : c ∉ specialChars) :
    Reading.step? ⟨.items, level, outer⟩ c = some ⟨.items, level.push (.atom (.char c)), outer⟩ := by
  have hplain := h
  simp only [specialChars, List.mem_cons, not_or] at hplain
  simp [Reading.step?, Reading.item?, Reading.push, h, hplain]

/-- Behind a backslash, so is one with a meaning of its own. -/
lemma step?_escaped {c : Char} (h : c ∈ specialChars) :
    Reading.step? ⟨.escape, level, outer⟩ c = some ⟨.items, level.push (.atom (.char c)), outer⟩ := by
  -- behind a backslash this letter has a meaning of its own
  have hs : c ≠ 's' := by
    intro hs
    subst hs
    exact absurd h (by decide)
  show (if c = 's' then _ else if c ∈ specialChars then _ else none) = _
  rw [if_neg hs, if_pos h]
  rfl

/-- A character is read as itself, behind a backslash if it is special. -/
lemma readsAsItem_char (c : Char) : ReadsAsItem (.atom (.char c)) := by
  intro level outer
  have hsource : (Pattern.atom (.char c)).source = escapeLiteral [c] := rfl
  rw [hsource, escapeLiteral, List.flatMap_singleton]
  by_cases hc : c ∈ specialChars
  · have hescape : Reading.step? ⟨.items, level, outer⟩ '\\' = some ⟨.escape, level, outer⟩ := rfl
    rw [if_pos hc, List.foldlM_cons, hescape, Option.bind_eq_bind, Option.bind_some, List.foldlM_cons,
      step?_escaped hc]
    rfl
  · rw [if_neg hc, List.foldlM_cons, step?_plain hc]
    rfl

/-- The characters of a set are gathered up to its bracket. -/
lemma read_set {done cs : List Char} (h : ']' ∉ cs) :
    cs.foldlM Reading.step? ⟨.set done, level, outer⟩ = some ⟨.set (cs.reverse ++ done), level, outer⟩ := by
  induction cs generalizing done with
  | nil => rfl
  | cons c cs ih =>
    simp only [List.mem_cons, not_or] at h
    have hstep : Reading.step? ⟨.set done, level, outer⟩ c = some ⟨.set (c :: done), level, outer⟩ :=
      if_neg (Ne.symm h.1)
    rw [List.foldlM_cons, hstep]
    simpa using ih h.2

/-- A set is read as the choice of its characters. -/
lemma readsAsItem_oneOf {cs : List Char} (h : ']' ∉ cs) : ReadsAsItem (.atom (.oneOf cs)) := by
  intro level outer
  have hsource : (Pattern.atom (.oneOf cs)).source = '[' :: (cs ++ [']']) := rfl
  have hopen : Reading.step? ⟨.items, level, outer⟩ '[' = some ⟨.set [], level, outer⟩ := rfl
  have hclose : Reading.step? ⟨.set cs.reverse, level, outer⟩ ']'
      = some ⟨.items, level.push (.atom (.oneOf cs.reverse.reverse)), outer⟩ := rfl
  rw [List.reverse_reverse] at hclose
  rw [hsource, List.foldlM_cons, hopen, Option.bind_eq_bind, Option.bind_some, List.foldlM_append, read_set h,
    List.append_nil, Option.bind_eq_bind, Option.bind_some, List.foldlM_cons, hclose]
  rfl

/-! ## Alternatives and groups -/

/-- The level with several more items. -/
def Level.pushAll (level : Level) (ps : List Pattern) : Level :=
  { level with items := ps.reverse ++ level.items }

/-- Items in a row are read one after the other. -/
lemma read_items {ps : List Pattern} (h : ∀ p ∈ ps, ReadsAsItem p) (level : Level)
    (outer : List (Opening × Level)) :
    (sequence ps).source.foldlM Reading.step? ⟨.items, level, outer⟩
      = some ⟨.items, level.pushAll ps, outer⟩ := by
  rw [source_sequence]
  induction ps generalizing level with
  | nil => rfl
  | cons p ps ih =>
    -- the first item is pushed onto the level, and the others are read on top of it
    rw [List.flatMap_cons, List.foldlM_append, h p List.mem_cons_self]
    have hrest := ih (fun q hq => h q (List.mem_cons_of_mem p hq)) (level.push p)
    simpa [Level.pushAll, Level.push] using hrest

/-- Alternatives read at the beginning of one are all finished at the end of the level. -/
lemma read_choice {alternatives : List (List Pattern)} (hne : alternatives ≠ [])
    (h : ∀ ps ∈ alternatives, ∀ p ∈ ps, ReadsAsItem p) (finished : List Pattern)
    (outer : List (Opening × Level)) :
    ∃ level : Level,
      (choice (alternatives.map sequence)).source.foldlM Reading.step? ⟨.items, ⟨finished, []⟩, outer⟩
          = some ⟨.items, level, outer⟩ ∧
        level.next.finished = (alternatives.map sequence).reverse ++ finished := by
  induction alternatives generalizing finished with
  | nil => exact absurd rfl hne
  | cons ps rest ih =>
    have hps := read_items (h ps List.mem_cons_self) ⟨finished, []⟩ outer
    rw [List.map_cons]
    by_cases hrest : rest = []
    · -- the last alternative is finished with its level only
      subst hrest
      exact ⟨_, hps, by simp [Level.next, Level.pushAll]⟩
    · -- the bar behind the first alternative finishes it
      rw [source_choice_cons (by simpa using hrest), List.foldlM_append, hps]
      have hbar : Reading.step? ⟨.items, (⟨finished, []⟩ : Level).pushAll ps, outer⟩ '|'
          = some ⟨.items, ((⟨finished, []⟩ : Level).pushAll ps).next, outer⟩ := rfl
      have hnext : ((⟨finished, []⟩ : Level).pushAll ps).next = ⟨sequence ps :: finished, []⟩ := by
        simp [Level.next, Level.pushAll]
      obtain ⟨level, hread, hlevel⟩ := ih hrest
        (fun qs hqs => h qs (List.mem_cons_of_mem _ hqs)) (sequence ps :: finished)
      refine ⟨level, ?_, by rw [hlevel]; simp⟩
      rw [Option.bind_eq_bind, Option.bind_some, List.foldlM_cons, hbar, hnext]
      exact hread

/-- What has been finished on a level is the choice that it closes with. -/
lemma close_of_finished {ps : List Pattern} (h : level.next.finished = ps.reverse) :
    level.close = choice ps := by
  rw [Level.close, h, List.reverse_reverse]

/-- The item that a closed group becomes. -/
def Opening.item : Opening → Pattern → Pattern
  | .plain, p => .group p
  | .named name, p => .capture name p

/-- The alternatives of a group and the parenthesis that closes it. -/
lemma read_group {opening : Opening} {alternatives : List (List Pattern)} (hne : alternatives ≠ [])
    (h : ∀ ps ∈ alternatives, ∀ p ∈ ps, ReadsAsItem p) :
    ((choice (alternatives.map sequence)).source ++ [')']).foldlM Reading.step?
        ⟨.items, .fresh, (opening, level) :: outer⟩
      = some ⟨.items, level.push (opening.item (choice (alternatives.map sequence))), outer⟩ := by
  obtain ⟨inner, hread, hinner⟩ := read_choice hne h [] ((opening, level) :: outer)
  have hclose : inner.close = choice (alternatives.map sequence) :=
    close_of_finished (by simpa using hinner)
  rw [List.foldlM_append, Level.fresh, hread]
  have hstep : Reading.step? ⟨.items, inner, (opening, level) :: outer⟩ ')'
      = some ⟨.items, level.push (opening.item inner.close), outer⟩ := by
    cases opening <;> rfl
  rw [Option.bind_eq_bind, Option.bind_some, List.foldlM_cons, hstep, hclose]
  rfl

/-- A group is read with the alternatives that stand in it. -/
lemma readsAsItem_group (alternatives : List (List Pattern)) (hne : alternatives ≠ [])
    (h : ∀ ps ∈ alternatives, ∀ p ∈ ps, ReadsAsItem p) :
    ReadsAsItem (.group (choice (alternatives.map sequence))) := by
  intro level outer
  have hopen : "(?:".toList.foldlM Reading.step? ⟨.items, level, outer⟩
      = some ⟨.items, .fresh, (.plain, level) :: outer⟩ := rfl
  rw [source_group, List.append_assoc, List.foldlM_append, hopen]
  exact read_group hne h

/-- The name of a group is gathered up to its bracket. -/
lemma read_name {done name : Text} (h : '>' ∉ name) :
    name.foldlM Reading.step? ⟨.name done, level, outer⟩
      = some ⟨.name (name.reverse ++ done), level, outer⟩ := by
  induction name generalizing done with
  | nil => rfl
  | cons c name ih =>
    simp only [List.mem_cons, not_or] at h
    have hstep : Reading.step? ⟨.name done, level, outer⟩ c = some ⟨.name (c :: done), level, outer⟩ :=
      if_neg (Ne.symm h.1)
    rw [List.foldlM_cons, hstep]
    simpa using ih h.2

/-- A group with a name is read with the alternatives that stand in it. -/
lemma readsAsItem_capture {name : Text} (hname : '>' ∉ name) (alternatives : List (List Pattern))
    (hne : alternatives ≠ []) (h : ∀ ps ∈ alternatives, ∀ p ∈ ps, ReadsAsItem p) :
    ReadsAsItem (.capture name (choice (alternatives.map sequence))) := by
  intro level outer
  have hopen : "(?P<".toList.foldlM Reading.step? ⟨.items, level, outer⟩
      = some ⟨.name [], level, outer⟩ := rfl
  -- the name is gathered backwards, and turned round when it ends
  have hread : (name ++ ['>']).foldlM Reading.step? ⟨.name [], level, outer⟩
      = some ⟨.items, .fresh, (.named name, level) :: outer⟩ := by
    have hclose : Reading.step? ⟨.name name.reverse, level, outer⟩ '>'
        = some ⟨.items, .fresh, (.named name.reverse.reverse, level) :: outer⟩ := rfl
    rw [List.reverse_reverse] at hclose
    rw [List.foldlM_append, read_name hname, List.append_nil, Option.bind_eq_bind, Option.bind_some,
      List.foldlM_cons, hclose]
    rfl
  have hsource : (capture name (choice (alternatives.map sequence))).source
      = "(?P<".toList ++ ((name ++ ['>']) ++ ((choice (alternatives.map sequence)).source ++ [')'])) := by
    rw [source_capture, List.append_assoc, List.append_assoc, List.append_assoc, List.singleton_append]
    rfl
  rw [hsource, List.foldlM_append, hopen, Option.bind_eq_bind, Option.bind_some, List.foldlM_append, hread]
  exact read_group hne h

/-! ## Signs behind items -/

/-- A sign behind an item takes its place. -/
lemma readsAsItem_sign (sign : Char) {p q : Pattern} (hsign : sign = '*' ∨ sign = '+' ∨ sign = '?')
    (hp : ReadsAsItem p) (hq : withSign? sign p = some q) (hsource : q.source = p.source ++ [sign]) :
    ReadsAsItem q := by
  intro level outer
  have hitem : Reading.step? ⟨.items, level.push p, outer⟩ sign = some ⟨.items, level.push q, outer⟩ := by
    have hstep : Reading.step? ⟨.items, level.push p, outer⟩ sign
        = (withSign? sign p).map fun p => ⟨.items, level.push p, outer⟩ := by
      rcases hsign with rfl | rfl | rfl <;> rfl
    rw [hstep, hq, Option.map_some]
  rw [hsource, List.foldlM_append, hp, Option.bind_eq_bind, Option.bind_some, List.foldlM_cons, hitem]
  rfl

/-- Some atoms in a row are seen to be atoms. -/
lemma atoms?_sequence (unit : List Atom) : (sequence (unit.map .atom)).atoms? = some unit := by
  induction unit with
  | nil => rfl
  | cons a unit ih =>
    cases unit with
    | nil => rfl
    | cons b unit =>
      show (sequence ((b :: unit).map .atom)).atoms?.map (a :: ·) = _
      rw [ih, Option.map_some]

/-- A group of atoms with a sign of repetition is read as a repeated run. -/
lemma readsAsItem_repeated {a b : Atom} {unit : List Atom}
    (h : ∀ c ∈ a :: b :: unit, ReadsAsItem (.atom c)) (once : Bool) :
    ReadsAsItem (.repeated once (a :: b :: unit)) := by
  -- a run of several atoms stands in a group, which the sign turns into a repetition
  have hgroup : ReadsAsItem (.group (sequence ((a :: b :: unit).map .atom))) :=
    readsAsItem_group [(a :: b :: unit).map .atom] (by simp) (by simpa using h)
  have hsource : (group (sequence ((a :: b :: unit).map .atom))).source
      = "(?:".toList ++ (a :: b :: unit).flatMap Atom.source ++ [')'] := by
    rw [source_group, source_sequence, List.flatMap_map]
    rfl
  have hrepeated : (repeated once (a :: b :: unit)).source
      = (group (sequence ((a :: b :: unit).map .atom))).source ++ [if once then '+' else '*'] := by
    rw [hsource, source_repeated, List.append_assoc, List.append_assoc, List.append_assoc, List.singleton_append]
  refine readsAsItem_sign (if once then '+' else '*') ?_ hgroup ?_ hrepeated
  · cases once <;> simp
  · cases once <;> simp only [withSign?, atoms?_sequence, Option.map_some, if_true, Bool.false_eq_true, if_false]

/-- A single atom with a sign of repetition needs no group to be read as a repeated run. -/
lemma readsAsItem_repeated_single {a : Atom} (h : ReadsAsItem (.atom a)) (once : Bool) :
    ReadsAsItem (.repeated once [a]) := by
  cases once with
  | false => exact readsAsItem_sign '*' (by simp) h rfl rfl
  | true => exact readsAsItem_sign '+' (by simp) h rfl rfl

/-- A group with a question mark is read as one that may be missing. -/
lemma readsAsItem_optional_group {p : Pattern} (h : ReadsAsItem (.group p)) :
    ReadsAsItem (.optional (.group p)) :=
  readsAsItem_sign '?' (by simp) h rfl rfl

/-! ## Whole patterns -/

/-- The text of items one after the other is read as their sequence. -/
theorem read?_source {ps : List Pattern} (h : ∀ p ∈ ps, ReadsAsItem p) :
    read? (sequence ps).source = some (sequence ps) := by
  rw [read?, Reading.fresh, read_items h]
  simp [Reading.finish?, Level.fresh, Level.pushAll, Level.close, Level.next, choice]

end Counterpart.Pattern
