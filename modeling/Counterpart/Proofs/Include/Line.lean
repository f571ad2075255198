import Counterpart.Include.Pattern
import Mathlib.Data.List.Basic

/-!
# Lines that include a header

The grammar of include lines, said without patterns:

* `IncludeLine directives line path` says that `line` includes `path` by one of the directives;
* `IsAscending route name path` says that `path` is a spelling of the header `name` that may ascend;
* `IncludeLine.path_unique`: a line includes at most one path, whatever stands in it.
-/

namespace Counterpart.Include

/-! ## The grammar -/

/-- A text of blanks only. -/
def AllBlank (t : Text) : Prop := ∀ c ∈ t, Text.isBlank c

/-- `line` includes `path` by one of the directives.  Blanks may stand around the directive, and have to stand
between it and the quote. -/
def IncludeLine (directives : List Text) (line path : Text) : Prop :=
  ∃ (margin directive gap tail : Text) (opening closing : Char),
    line = margin ++ '#' :: directive ++ gap ++ opening :: path ++ closing :: tail ∧
    AllBlank margin ∧ directive ∈ directives ∧ AllBlank gap ∧ gap ≠ [] ∧
    (opening = '"' ∨ opening = '<') ∧ (closing = '"' ∨ closing = '>') ∧ AllBlank tail

/-- The directories on a route that have a name of their own. -/
def directoryNames (route : Text) : List Text :=
  ((Text.beforeLast '/' route).splitOn '/').filter isDirectoryName

/-- `t` writes the last of some directories, each with a slash behind it, or none. -/
def IsTrailing (names : List Text) (t : Text) : Prop :=
  t = [] ∨ ∃ j, 1 ≤ j ∧ j ≤ names.length ∧ t = Text.join '/' (names.drop (names.length - j)) ++ ['/']

/-- Some ascents, one after the other. -/
def ascents (k : Nat) : Text := (List.replicate k "../".toList).flatten

/-- `path` spells the header `name`: ascents, some of the last directories of the route, and the name. -/
def IsAscending (route name path : Text) : Prop :=
  ∃ k t, IsTrailing (directoryNames route) t ∧ path = ascents k ++ t ++ name

lemma mem_suffixTexts {names : List Text} {t : Text} :
    t ∈ suffixTexts names ↔
      ∃ j, 1 ≤ j ∧ j ≤ names.length ∧ t = Text.join '/' (names.drop (names.length - j)) ++ ['/'] := by
  induction names with
  | nil =>
    simp only [suffixTexts, List.not_mem_nil, List.length_nil, false_iff]
    intro hparts
    obtain ⟨j, hj, hj', -⟩ := hparts
    omega
  | cons d rest ih =>
    rw [suffixTexts, List.mem_append, List.mem_singleton, ih, List.length_cons]
    constructor
    · intro hparts
      rcases hparts with ⟨j, hj, hj', rfl⟩ | rfl
      · refine ⟨j, hj, by omega, ?_⟩
        rw [show rest.length + 1 - j = rest.length - j + 1 by omega, List.drop_succ_cons]
      · exact ⟨rest.length + 1, by omega, Nat.le_refl _, by rw [Nat.sub_self, List.drop_zero]⟩
    · intro hparts
      obtain ⟨j, hj, hj', rfl⟩ := hparts
      -- all names, or only some of those behind the first
      by_cases hall : j = rest.length + 1
      · subst hall
        exact .inr (by rw [Nat.sub_self, List.drop_zero])
      · refine .inl ⟨j, hj, by omega, ?_⟩
        rw [show rest.length + 1 - j = rest.length - j + 1 by omega, List.drop_succ_cons]

lemma isTrailing_iff {route t : Text} :
    IsTrailing (directoryNames route) t ↔
      t = [] ∨ t ∈ trailingDirectories (Text.beforeLast '/' route) := by
  rw [trailingDirectories, mem_suffixTexts]
  rfl

/-! ## A line includes one path -/

/-- A text is cut in one way only before its first character that fails a test. -/
lemma append_cons_inj {p : Char → Prop} {u u' v v' : Text} {a a' : Char} (hu : ∀ c ∈ u, p c)
    (hu' : ∀ c ∈ u', p c) (ha : ¬ p a) (ha' : ¬ p a') (h : u ++ a :: v = u' ++ a' :: v') :
    u = u' ∧ a = a' ∧ v = v' := by
  induction u generalizing u' with
  | nil =>
    cases u' with
    | nil => exact ⟨rfl, by simpa using h⟩
    | cons c u' =>
      obtain ⟨rfl, -⟩ : a = c ∧ v = u' ++ a' :: v' := by simpa using h
      exact absurd (hu' a List.mem_cons_self) ha
  | cons b u ih =>
    cases u' with
    | nil =>
      obtain ⟨rfl, -⟩ : b = a' ∧ u ++ a :: v = v' := by simpa using h
      exact absurd (hu b List.mem_cons_self) ha'
    | cons c u' =>
      obtain ⟨rfl, hrest⟩ : b = c ∧ u ++ a :: v = u' ++ a' :: v' := by simpa using h
      obtain ⟨rfl, hav⟩ := ih (fun x hx => hu x (List.mem_cons_of_mem _ hx))
        (fun x hx => hu' x (List.mem_cons_of_mem _ hx)) hrest
      exact ⟨rfl, hav⟩

lemma not_isBlank_hash : ¬ Text.isBlank '#' = true := by decide

lemma not_isBlank_opening {c : Char} (h : c = '"' ∨ c = '<') : ¬ Text.isBlank c = true := by
  rcases h with rfl | rfl <;> decide

lemma not_isBlank_closing {c : Char} (h : c = '"' ∨ c = '>') : ¬ Text.isBlank c = true := by
  rcases h with rfl | rfl <;> decide

/-- What stands behind the opening quote of an include line is determined by the line. -/
lemma behind_opening_unique {m d g rest m' d' g' rest' : Text} {o o' : Char} (hm : AllBlank m)
    (hm' : AllBlank m') (hd : ∀ c ∈ d, ¬ Text.isBlank c = true) (hd' : ∀ c ∈ d', ¬ Text.isBlank c = true)
    (hg : AllBlank g) (hg' : AllBlank g') (hgne : g ≠ []) (hgne' : g' ≠ []) (ho : o = '"' ∨ o = '<')
    (ho' : o' = '"' ∨ o' = '<')
    (h : m ++ '#' :: (d ++ (g ++ o :: rest)) = m' ++ '#' :: (d' ++ (g' ++ o' :: rest'))) :
    m = m' ∧ d = d' ∧ g = g' ∧ o = o' ∧ rest = rest' := by
  -- the margin ends where the first other character stands
  obtain ⟨rfl, -, h⟩ := append_cons_inj hm hm' not_isBlank_hash not_isBlank_hash h
  obtain ⟨b, g, rfl⟩ := List.exists_cons_of_ne_nil hgne
  obtain ⟨b', g', rfl⟩ := List.exists_cons_of_ne_nil hgne'
  -- the directive ends where the first blank stands
  obtain ⟨rfl, rfl, hgap⟩ := append_cons_inj (p := fun c => ¬ Text.isBlank c = true) hd hd'
    (not_not.mpr (hg b List.mem_cons_self)) (not_not.mpr (hg' b' List.mem_cons_self)) h
  obtain ⟨rfl, rfl, rfl⟩ := append_cons_inj (fun c hc => hg c (List.mem_cons_of_mem _ hc))
    (fun c hc => hg' c (List.mem_cons_of_mem _ hc)) (not_isBlank_opening ho) (not_isBlank_opening ho') hgap
  exact ⟨rfl, rfl, rfl, rfl, rfl⟩

/-- What stands before the last quote of an include line is determined by the line. -/
lemma before_closing_unique {p t p' t' : Text} {c c' : Char} (ht : AllBlank t) (ht' : AllBlank t')
    (hc : c = '"' ∨ c = '>') (hc' : c' = '"' ∨ c' = '>') (h : p ++ c :: t = p' ++ c' :: t') :
    p = p' := by
  -- seen from its end the line is cut at the first character that is no blank
  have hreverse : t.reverse ++ c :: p.reverse = t'.reverse ++ c' :: p'.reverse := by
    simpa using congrArg List.reverse h
  obtain ⟨-, -, hp⟩ := append_cons_inj (fun x hx => ht x (List.mem_reverse.mp hx))
    (fun x hx => ht' x (List.mem_reverse.mp hx)) (not_isBlank_closing hc) (not_isBlank_closing hc') hreverse
  exact List.reverse_injective hp

/-- Directives without blanks in them. -/
def AreWords (directives : List Text) : Prop := ∀ d ∈ directives, ∀ c ∈ d, ¬ Text.isBlank c = true

/-- A line includes at most one path, whatever stands in it. -/
lemma IncludeLine.path_unique {directives : List Text} (hwords : AreWords directives) {line p p' : Text}
    (h : IncludeLine directives line p) (h' : IncludeLine directives line p') : p = p' := by
  obtain ⟨m, d, g, t, o, c, hline, hm, hd, hg, hgne, ho, hc, ht⟩ := h
  obtain ⟨m', d', g', t', o', c', hline', hm', hd', hg', hgne', ho', hc', ht'⟩ := h'
  have heq := hline.symm.trans hline'
  simp only [List.append_assoc, List.cons_append] at heq
  obtain ⟨-, -, -, -, hrest⟩ := behind_opening_unique hm hm' (hwords d hd) (hwords d' hd') hg hg' hgne
    hgne' ho ho' heq
  exact before_closing_unique ht ht' hc hc' hrest

lemma areWords_of_all {directives : List Text}
    (h : (directives.all fun d => d.all fun c => !Text.isBlank c) = true) : AreWords directives := by
  intro d hd c hc
  have hd := List.all_eq_true.mp (List.all_eq_true.mp h d hd) c hc
  simpa using hd

lemma areWords_defaultDirectives : AreWords defaultDirectives := areWords_of_all (by decide)

end Counterpart.Include
