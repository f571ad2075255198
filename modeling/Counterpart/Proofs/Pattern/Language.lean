import Counterpart.Pattern.Matching
import Mathlib.Computability.Language

/-!
# The language of a pattern

The cursors that a pattern without groups to be kept can reach are told by a language: the texts that it may
read.  This file builds that language from the parts of the pattern.

* `Cursor.Reads r t s` says that `s` is the cursor `r` moved past the text `t`;
* `Recognizes p L` says that `p` leads from a cursor past the texts of `L` and past nothing else;
* `recognizes_sequence`, `recognizes_repeated` and their like give the language of a composed pattern.
-/

open Computability

namespace Counterpart

namespace Cursor

/-- `s` is the cursor `r` moved past the text `t`. -/
structure Reads (r : Cursor) (t : Text) (s : Cursor) : Prop where
  ahead : r.ahead = t ++ s.ahead
  behind : s.behind = r.behind + t.length
  groups : s.groups = r.groups

variable {r s u : Cursor} {t v : Text}

lemma Reads.refl (r : Cursor) : r.Reads [] r := ⟨rfl, rfl, rfl⟩

/-- One text read behind another is both of them read. -/
lemma Reads.trans (h : r.Reads t s) (h' : s.Reads v u) : r.Reads (t ++ v) u where
  ahead := by rw [h.ahead, h'.ahead, List.append_assoc]
  behind := by rw [h'.behind, h.behind, List.length_append, Nat.add_assoc]
  groups := h'.groups.trans h.groups

/-- A text can be read wherever it stands ahead. -/
lemma exists_reads {rest : Text} (h : r.ahead = t ++ rest) : ∃ s, r.Reads t s ∧ s.ahead = rest :=
  ⟨⟨r.behind + t.length, rest, r.groups⟩, ⟨h, rfl, rfl⟩, rfl⟩

/-- Of two texts read at once the first is read first. -/
lemma Reads.split (h : r.Reads (t ++ v) u) : ∃ s, r.Reads t s ∧ s.Reads v u := by
  obtain ⟨s, hs, hahead⟩ := exists_reads (r := r) (t := t) (by rw [h.ahead, List.append_assoc])
  refine ⟨s, hs, hahead, ?_, h.groups.trans hs.groups.symm⟩
  rw [h.behind, hs.behind, List.length_append, Nat.add_assoc]

/-- What has been read tells where the reader is. -/
lemma Reads.unique (h : r.Reads t s) (h' : r.Reads t u) : s = u := by
  cases s
  cases u
  have hahead := List.append_cancel_left (h.ahead.symm.trans h'.ahead)
  have hbehind := h.behind.trans h'.behind.symm
  have hgroups := h.groups.trans h'.groups.symm
  simp_all

/-- A reader that reads nothing stays where it is. -/
lemma reads_nil_iff : r.Reads [] s ↔ s = r :=
  ⟨fun h => h.unique (.refl r), fun h => h ▸ .refl r⟩

/-- What was read is the beginning of what was ahead. -/
lemma Reads.take_ahead (h : r.Reads t s) : r.ahead.take (s.behind - r.behind) = t := by
  rw [h.behind, Nat.add_sub_cancel_left, h.ahead, List.take_left]

/-- A cursor with one more text kept. -/
def keep (s : Cursor) (name t : Text) : Cursor := { s with groups := (name, t) :: s.groups }

end Cursor

/-! ## Atoms and runs of them -/

/-- The texts that an atom reads. -/
def Atom.language (a : Atom) : Language Char := {t | ∃ c, a.takes c ∧ t = [c]}

/-- A text of a star is empty or begins with a text of its language. -/
lemma mem_kstar_iff {L : Language Char} {t : Text} : t ∈ L∗ ↔ t = [] ∨ t ∈ L * L∗ := by
  conv_lhs => rw [← Language.one_add_self_mul_kstar_eq_kstar]
  exact Iff.rfl

/-- The texts that a run of atoms reads. -/
def runLanguage (unit : List Atom) : Language Char := (unit.map Atom.language).prod

lemma Atom.mem_language {a : Atom} {t : Text} : t ∈ a.language ↔ ∃ c, a.takes c ∧ t = [c] := Iff.rfl

lemma Atom.language_char (c : Char) : (Atom.char c).language = {[c]} := by
  ext t
  rw [Atom.mem_language]
  constructor
  · intro hparts
    obtain ⟨d, hd, rfl⟩ := hparts
    simp only [Atom.takes, decide_eq_true_eq] at hd
    subst hd
    rfl
  · intro heq
    subst heq
    exact ⟨c, by simp [Atom.takes], rfl⟩

lemma runLanguage_cons (a : Atom) (unit : List Atom) :
    runLanguage (a :: unit) = a.language * runLanguage unit := by
  rw [runLanguage, List.map_cons, List.prod_cons, runLanguage]

lemma runLanguage_singleton (a : Atom) : runLanguage [a] = a.language := by
  rw [runLanguage_cons, runLanguage, List.map_nil, List.prod_nil, mul_one]

/-- A run of characters reads the text that they make up. -/
lemma runLanguage_chars (t : Text) : runLanguage (t.map .char) = {t} := by
  induction t with
  | nil => rfl
  | cons c t ih =>
    ext u
    rw [List.map_cons, runLanguage_cons, ih, Atom.language_char, Language.mem_mul]
    constructor
    · intro hparts
      obtain ⟨_, rfl, _, rfl, rfl⟩ := hparts
      rfl
    · intro heq
      subst heq
      exact ⟨[c], rfl, t, rfl, rfl⟩

/-- A run of one atom or more takes at least one character. -/
lemma nil_notMem_runLanguage {unit : List Atom} (h : unit ≠ []) : [] ∉ runLanguage unit := by
  cases unit with
  | nil => exact absurd rfl h
  | cons a unit =>
    rw [runLanguage_cons, Language.mem_mul]
    intro hparts
    obtain ⟨_, ⟨c, -, rfl⟩, v, -, hnil⟩ := hparts
    exact absurd hnil (by simp)

namespace Cursor

variable {r s : Cursor}

/-- An atom takes one character of its language. -/
lemma step?_eq_some_iff {a : Atom} : r.step? a = some s ↔ ∃ t ∈ a.language, r.Reads t s := by
  constructor
  · intro h
    cases hahead : r.ahead with
    | nil => simp [step?, hahead] at h
    | cons c rest =>
      simp only [step?, hahead] at h
      split at h
      · next htakes =>
        obtain rfl := Option.some.inj h
        exact ⟨[c], ⟨c, htakes, rfl⟩, hahead, rfl, rfl⟩
      · exact absurd h (by simp)
  · intro hparts
    obtain ⟨_, ⟨c, htakes, rfl⟩, hr⟩ := hparts
    have hahead : r.ahead = c :: s.ahead := hr.ahead
    have hs : s = { r with behind := r.behind + 1, ahead := s.ahead } :=
      hr.unique ⟨hahead, rfl, rfl⟩
    rw [hs]
    simp only [step?, hahead, if_pos htakes]

/-- A run of atoms takes a text of its language. -/
lemma run?_eq_some_iff {unit : List Atom} : r.run? unit = some s ↔ ∃ t ∈ runLanguage unit, r.Reads t s := by
  induction unit generalizing r with
  | nil =>
    have hnil : r.run? [] = some r := rfl
    rw [hnil, Option.some_inj]
    constructor
    · intro heq
      subst heq
      exact ⟨[], rfl, .refl _⟩
    · intro hparts
      obtain ⟨_, rfl, hr⟩ := hparts
      exact (reads_nil_iff.1 hr).symm
  | cons a unit ih =>
    have hcons : r.run? (a :: unit) = (r.step? a).bind (·.run? unit) := rfl
    rw [hcons, Option.bind_eq_some_iff, runLanguage_cons]
    constructor
    · intro ⟨m, hm, hs⟩
      obtain ⟨t, ht, hrm⟩ := step?_eq_some_iff.1 hm
      obtain ⟨v, hv, hms⟩ := ih.mp hs
      exact ⟨t ++ v, Language.append_mem_mul ht hv, hrm.trans hms⟩
    · intro hparts
      obtain ⟨_, ⟨t, ht, v, hv, rfl⟩, hr⟩ := hparts
      obtain ⟨m, hrm, hms⟩ := hr.split
      exact ⟨m, step?_eq_some_iff.2 ⟨t, ht, hrm⟩, ih.mpr ⟨v, hv, hms⟩⟩

/-- Where a run leads, less is ahead. -/
lemma length_ahead_lt_of_run? {unit : List Atom} (hunit : unit ≠ []) (h : r.run? unit = some s) :
    s.ahead.length < r.ahead.length := by
  obtain ⟨t, ht, hread⟩ := run?_eq_some_iff.1 h
  have hne : t ≠ [] := fun hnil => nil_notMem_runLanguage hunit (hnil ▸ ht)
  have hpos := List.length_pos_of_ne_nil hne
  have hlength := congrArg List.length hread.ahead
  rw [List.length_append] at hlength
  omega

/-- One run or more lead nowhere if one does not. -/
lemma not_reads_runs_of_none {unit : List Atom} (h : r.run? unit = none) :
    ¬ ∃ t ∈ runLanguage unit * (runLanguage unit)∗, r.Reads t s := by
  intro hruns
  obtain ⟨_, ⟨t, ht, v, -, rfl⟩, hread⟩ := hruns
  obtain ⟨m, hm, -⟩ := hread.split
  exact absurd (run?_eq_some_iff.2 ⟨t, ht, hm⟩) (by simp [h])

/-- One run or more lead to where the first one does, and to where one run or more lead from there. -/
lemma reads_runs_iff_of_some {unit : List Atom} {m : Cursor} (h : r.run? unit = some m) :
    (∃ t ∈ runLanguage unit * (runLanguage unit)∗, r.Reads t s) ↔
      s = m ∨ ∃ t ∈ runLanguage unit * (runLanguage unit)∗, m.Reads t s := by
  obtain ⟨t, ht, hread⟩ := run?_eq_some_iff.1 h
  constructor
  · intro hruns
    obtain ⟨_, ⟨t', ht', v, hv, rfl⟩, hrs⟩ := hruns
    obtain ⟨m', hm', hms⟩ := hrs.split
    -- the first run leads to one place only
    have heq : m = m' := Option.some.inj (h.symm.trans (run?_eq_some_iff.2 ⟨t', ht', hm'⟩))
    subst heq
    rcases mem_kstar_iff.1 hv with rfl | hv
    · exact .inl (reads_nil_iff.1 hms)
    · exact .inr ⟨v, hv, hms⟩
  · intro hruns
    rcases hruns with rfl | ⟨v, hv, hms⟩
    · refine ⟨t, ?_, hread⟩
      rw [← List.append_nil t]
      exact Language.append_mem_mul ht (Language.nil_mem_kstar _)
    · exact ⟨t ++ v, Language.append_mem_mul ht (mem_kstar_iff.2 (.inr hv)), hread.trans hms⟩

/-- A repeated run reaches what it had reached before, and all that one run or more lead to.  Every run takes
a character at least, so as many runs as there are characters ahead are enough. -/
lemma mem_repeatRun {unit : List Atom} (hunit : unit ≠ []) {times : ℕ} (done : List Cursor)
    (hr : r.ahead.length ≤ times) :
    s ∈ repeatRun unit times r done ↔
      s ∈ done ∨ ∃ t ∈ runLanguage unit * (runLanguage unit)∗, r.Reads t s := by
  induction times generalizing r done with
  | zero =>
    -- nothing is ahead, so no run leads anywhere
    have hrun : r.run? unit = none := by
      cases hrun : r.run? unit with
      | none => rfl
      | some m =>
        have hless := length_ahead_lt_of_run? hunit hrun
        omega
    rw [or_iff_left (not_reads_runs_of_none hrun)]
    rfl
  | succ times ih =>
    cases hrun : r.run? unit with
    | none =>
      simp only [repeatRun, hrun]
      rw [or_iff_left (not_reads_runs_of_none hrun)]
    | some m =>
      have hless := length_ahead_lt_of_run? hunit hrun
      have hlen : m.ahead.length ≤ times := by omega
      simp only [repeatRun, hrun]
      rw [ih _ hlen, List.mem_cons, reads_runs_iff_of_some hrun, or_assoc, or_left_comm]

end Cursor

namespace Pattern

/-! ## Equations -/

lemma cursors_empty (r : Cursor) : Pattern.empty.cursors r = [r] := rfl

lemma cursors_atom (a : Atom) (r : Cursor) : (Pattern.atom a).cursors r = (r.step? a).toList := rfl

lemma cursors_seq (p q : Pattern) (r : Cursor) :
    (Pattern.seq p q).cursors r = (p.cursors r).flatMap q.cursors := rfl

lemma cursors_either (p q : Pattern) (r : Cursor) :
    (Pattern.either p q).cursors r = p.cursors r ++ q.cursors r := rfl

/-- A group keeps what was read for it under its name. -/
lemma cursors_capture (name : Text) (p : Pattern) (r : Cursor) :
    (capture name p).cursors r
      = (p.cursors r).map fun s => s.keep name (r.ahead.take (s.behind - r.behind)) := rfl

lemma cursors_repeated (unit : List Atom) (r : Cursor) :
    (repeated false unit).cursors r = Cursor.repeatRun unit r.ahead.length r [r] := rfl

lemma cursors_repeated_once (unit : List Atom) (r : Cursor) :
    (repeated true unit).cursors r =
      match r.run? unit with
      | some s => (repeated false unit).cursors s
      | none => [] := rfl

/-- The end of the line is before a last line feed or at the very end. -/
lemma cursors_lineEnd (r : Cursor) :
    Pattern.lineEnd.cursors r = if r.ahead = [] ∨ r.ahead = ['\n'] then [r] else [] := rfl

/-! ## Recognizing a language -/

/-- `p` leads from a cursor past the texts of `L`, and past nothing else. -/
def Recognizes (p : Pattern) (L : Language Char) : Prop :=
  ∀ r s, s ∈ p.cursors r ↔ ∃ t ∈ L, r.Reads t s

variable {p q : Pattern} {L M : Language Char}

/-- A pattern recognizes a language only by the texts in it. -/
lemma Recognizes.congr (hp : Recognizes p L) (h : ∀ t, t ∈ L ↔ t ∈ M) : Recognizes p M :=
  (Language.ext h : L = M) ▸ hp

/-- The empty pattern recognizes the empty text. -/
lemma recognizes_empty : Recognizes .empty 1 := by
  intro r s
  rw [cursors_empty, List.mem_singleton]
  constructor
  · intro heq
    subst heq
    exact ⟨[], rfl, .refl s⟩
  · intro hparts
    obtain ⟨_, rfl, h⟩ := hparts
    exact Cursor.reads_nil_iff.1 h

/-- An atom recognizes its characters. -/
lemma recognizes_atom (a : Atom) : Recognizes (.atom a) a.language := by
  intro r s
  rw [cursors_atom, Option.mem_toList, Cursor.step?_eq_some_iff]

/-- Two patterns in a row recognize a text of the one and then one of the other. -/
lemma Recognizes.seq (hp : Recognizes p L) (hq : Recognizes q M) : Recognizes (.seq p q) (L * M) := by
  intro r s
  rw [cursors_seq, List.mem_flatMap]
  constructor
  · intro ⟨m, hm, hs⟩
    obtain ⟨t, ht, hrm⟩ := (hp r m).mp hm
    obtain ⟨v, hv, hms⟩ := (hq m s).mp hs
    exact ⟨t ++ v, Language.append_mem_mul ht hv, hrm.trans hms⟩
  · intro hparts
    obtain ⟨_, ⟨t, ht, v, hv, rfl⟩, hrs⟩ := hparts
    obtain ⟨m, hrm, hms⟩ := hrs.split
    exact ⟨m, (hp r m).mpr ⟨t, ht, hrm⟩, (hq m s).mpr ⟨v, hv, hms⟩⟩

/-- Two patterns to choose from recognize a text of either. -/
lemma Recognizes.either (hp : Recognizes p L) (hq : Recognizes q M) :
    Recognizes (.either p q) (L + M) := by
  intro r s
  rw [cursors_either, List.mem_append, hp r s, hq r s]
  constructor
  · intro hparts
    rcases hparts with ⟨t, ht, h⟩ | ⟨t, ht, h⟩
    · exact ⟨t, .inl ht, h⟩
    · exact ⟨t, .inr ht, h⟩
  · intro hparts
    rcases hparts with ⟨t, ht | ht, h⟩
    · exact .inl ⟨t, ht, h⟩
    · exact .inr ⟨t, ht, h⟩

/-- A group recognizes what stands in it. -/
lemma Recognizes.group (hp : Recognizes p L) : Recognizes (.group p) L := hp

/-- What may be missing recognizes the empty text, too. -/
lemma Recognizes.optional (hp : Recognizes p L) : Recognizes (.optional p) (L + 1) :=
  hp.either recognizes_empty

/-- A repeated run is at an end at once, or after one round and more. -/
lemma mem_cursors_repeated {unit : List Atom} (h : unit ≠ []) {r s : Cursor} :
    s ∈ (Pattern.repeated false unit).cursors r ↔
      s = r ∨ ∃ t ∈ runLanguage unit * (runLanguage unit)∗, r.Reads t s := by
  rw [cursors_repeated, Cursor.mem_repeatRun h [r] le_rfl, List.mem_singleton]

/-- A repeated run recognizes the closure of its language. -/
lemma recognizes_repeated {unit : List Atom} (h : unit ≠ []) :
    Recognizes (.repeated false unit) (runLanguage unit)∗ := by
  intro r s
  rw [mem_cursors_repeated h, ← Cursor.reads_nil_iff]
  constructor
  · intro hparts
    rcases hparts with h | ⟨t, ht, h⟩
    · exact ⟨[], Language.nil_mem_kstar _, h⟩
    · exact ⟨t, mem_kstar_iff.2 (.inr ht), h⟩
  · intro ⟨t, ht, h⟩
    -- a text of a star is empty, or one run and more
    rcases mem_kstar_iff.1 ht with rfl | ht
    · exact .inl h
    · exact .inr ⟨t, ht, h⟩

/-- A run that is repeated once or more recognizes its language, and then its closure. -/
lemma recognizes_repeated_once {unit : List Atom} (h : unit ≠ []) :
    Recognizes (.repeated true unit) (runLanguage unit * (runLanguage unit)∗) := by
  intro r s
  cases hrun : r.run? unit with
  | none =>
    simp only [cursors_repeated_once, hrun, List.not_mem_nil, false_iff]
    exact Cursor.not_reads_runs_of_none hrun
  | some m =>
    simp only [cursors_repeated_once, hrun]
    exact (mem_cursors_repeated h).trans (Cursor.reads_runs_iff_of_some hrun).symm

/-! ## Sequences and choices -/

lemma cursors_sequence_cons (p : Pattern) (ps : List Pattern) (r : Cursor) :
    (sequence (p :: ps)).cursors r = (p.cursors r).flatMap (sequence ps).cursors := by
  cases ps with
  | nil => exact (List.flatMap_singleton' _).symm
  | cons q ps => rfl

lemma cursors_sequence_append (ps qs : List Pattern) (r : Cursor) :
    (sequence (ps ++ qs)).cursors r = ((sequence ps).cursors r).flatMap (sequence qs).cursors := by
  induction ps generalizing r with
  | nil => exact (List.flatMap_singleton _ _).symm
  | cons p ps ih =>
    rw [List.cons_append, cursors_sequence_cons, cursors_sequence_cons, List.flatMap_assoc]
    exact congrArg (List.flatMap · (p.cursors r)) (funext ih)

/-- Some patterns in a row recognize what the first does and then what the rest does. -/
lemma Recognizes.sequence_cons {ps : List Pattern} (hp : Recognizes p L)
    (hps : Recognizes (sequence ps) M) : Recognizes (sequence (p :: ps)) (L * M) := by
  intro r s
  rw [cursors_sequence_cons]
  exact (hp.seq hps) r s

/-- A literal recognizes its own text alone. -/
lemma recognizes_literal (t : Text) : Recognizes (literal t) {t} := by
  rw [← runLanguage_chars, literal]
  induction t with
  | nil => exact recognizes_empty
  | cons c t ih =>
    rw [List.map_cons, runLanguage_cons]
    exact (recognizes_atom (.char c)).sequence_cons ih

/-- The texts of a list, as a language. -/
def languageOf (ts : List Text) : Language Char := {t | t ∈ ts}

lemma languageOf_singleton (t : Text) : languageOf [t] = {t} := by
  ext u
  exact List.mem_singleton

lemma languageOf_cons (t : Text) (ts : List Text) : languageOf (t :: ts) = {t} + languageOf ts := by
  ext u
  exact List.mem_cons

/-- A choice of literals recognizes their texts. -/
lemma recognizes_choice_literals {ts : List Text} (h : ts ≠ []) :
    Recognizes (choice (ts.map literal)) (languageOf ts) := by
  induction ts with
  | nil => exact absurd rfl h
  | cons t ts ih =>
    by_cases hts : ts = []
    · subst hts
      rw [languageOf_singleton]
      exact recognizes_literal t
    · obtain ⟨u, us, rfl⟩ := List.exists_cons_of_ne_nil hts
      rw [languageOf_cons]
      exact (recognizes_literal t).either (ih hts)

/-! ## Kept groups -/

/-- A group around a choice is a choice of groups. -/
lemma cursors_capture_either (name : Text) (p q : Pattern) (r : Cursor) :
    (capture name (.either p q)).cursors r = (capture name p).cursors r ++ (capture name q).cursors r := by
  rw [cursors_capture, cursors_either, List.map_append]
  rfl

/-- A group ends where its pattern does, and what it keeps is in the pattern's language. -/
lemma mem_cursors_capture (h : Recognizes p L) {name : Text} {r s : Cursor} :
    s ∈ (capture name p).cursors r ↔ ∃ t ∈ L, ∃ m, r.Reads t m ∧ s = m.keep name t := by
  rw [cursors_capture, List.mem_map]
  constructor
  · intro hparts
    obtain ⟨m, hm, rfl⟩ := hparts
    obtain ⟨t, ht, hrm⟩ := (h r m).mp hm
    exact ⟨t, ht, m, hrm, by rw [hrm.take_ahead]⟩
  · intro hparts
    obtain ⟨t, ht, m, hrm, rfl⟩ := hparts
    exact ⟨m, (h r m).mpr ⟨t, ht, hrm⟩, by rw [hrm.take_ahead]⟩

/-- A group that is kept twice is kept with one text. -/
lemma mem_cursors_capture_capture (h : Recognizes p L) {name name' : Text} {r s : Cursor} :
    s ∈ (capture name (capture name' p)).cursors r ↔
      ∃ t ∈ L, ∃ m, r.Reads t m ∧ s = (m.keep name' t).keep name t := by
  rw [cursors_capture, List.mem_map]
  constructor
  · intro hparts
    obtain ⟨k, hk, rfl⟩ := hparts
    obtain ⟨t, ht, m, hrm, rfl⟩ := (mem_cursors_capture h).mp hk
    exact ⟨t, ht, m, hrm, by simp only [Cursor.keep, hrm.take_ahead]⟩
  · intro hparts
    obtain ⟨t, ht, m, hrm, rfl⟩ := hparts
    exact ⟨m.keep name' t, (mem_cursors_capture h).mpr ⟨t, ht, m, hrm, rfl⟩,
      by simp only [Cursor.keep, hrm.take_ahead]⟩

end Pattern

end Counterpart
