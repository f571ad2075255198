import Counterpart.Path.Argument
import Mathlib.Data.List.Basic
import Mathlib.Tactic.Lemma

/-!
# Paths in normal form

A path is normal if it is absolute and has no double dots in it.

* `ofText_text` and `ofText_componentsText`: the text of a path is read as the path, and that of components as those;
* `isNormal_normal` and `IsNormal.normal_eq`: `normal` makes absolute paths normal and leaves normal ones alone,
  so an accepted argument is normal (`isNormal_of_require`);
* `normal_join_relativeTo`: the way from one normal path to another leads there.
-/

namespace Counterpart

namespace Component

/-- No component is empty. -/
lemma ne_nil (c : Component) : c.val ≠ [] := by
  have h := c.property
  simp only [isComponent, Bool.and_eq_true, decide_eq_true_eq] at h
  exact h.1.1

/-- No component has a slash in it. -/
lemma slash_notMem (c : Component) : '/' ∉ c.val := by
  have h := c.property
  simp only [isComponent, Bool.and_eq_true, Bool.not_eq_true', List.contains_eq_mem,
    decide_eq_false_iff_not] at h
  exact h.2

/-- The characters of a component stand between slashes. -/
lemma exists_cons (c : Component) : ∃ first rest, c.val = first :: rest ∧ first ≠ '/' := by
  obtain ⟨first, rest, h⟩ := List.exists_cons_of_ne_nil c.ne_nil
  refine ⟨first, rest, h, ?_⟩
  intro hslash
  subst hslash
  exact c.slash_notMem (by rw [h]; exact List.mem_cons_self)

end Component

/-- The slashes of an anchor are found again before anything that begins with no slash. -/
lemma Anchor.ofText_text_append (anchor : Anchor) {t : Text} (h : t.head? ≠ some '/') :
    Anchor.ofText (anchor.text ++ t) = anchor := by
  cases t with
  | nil => cases anchor <;> rfl
  | cons c t =>
    have hc : c ≠ '/' := by simpa using h
    cases anchor <;> simp [Anchor.text, Anchor.ofText, hc]

namespace Path

/-! ## Texts -/

lemma componentsText_cons (c : Component) (cs : List Component) :
    ∃ rest, componentsText (c :: cs) = c.val ++ rest := by
  unfold componentsText Text.join
  cases cs with
  | nil => exact ⟨[], by simp⟩
  | cons d ds => exact ⟨_, by rw [List.map_cons, List.map_cons, List.intercalate_cons_cons, List.append_assoc]⟩

/-- No component has a slash, so the slashes between them are where the text is split. -/
lemma splitOn_componentsText {cs : List Component} (h : cs ≠ []) :
    (componentsText cs).splitOn '/' = cs.map (·.val) := by
  have hpieces : ∀ t ∈ cs.map (·.val), '/' ∉ t := by
    intro t ht
    obtain ⟨c, -, rfl⟩ := List.mem_map.mp ht
    exact c.slash_notMem
  unfold componentsText Text.join
  exact List.splitOn_intercalate '/' hpieces (by rwa [Ne, List.map_eq_nil_iff])

/-- A slash in front splits off an empty part. -/
lemma splitOn_slash (t : Text) : ('/' :: t).splitOn '/' = [] :: t.splitOn '/' := by
  have hsplit := List.splitOn_append_cons_self (a := '/') [] t
  rwa [List.nil_append, List.splitOn_nil] at hsplit

/-- What is read from the components' text, behind any number of slashes. -/
lemma filterMap_splitOn_componentsText (cs : List Component) :
    ((componentsText cs).splitOn '/').filterMap Component.ofText? = cs := by
  by_cases hne : cs = []
  · subst hne
    decide
  · rw [splitOn_componentsText hne, List.filterMap_map]
    have hread : (Component.ofText? ∘ fun c : Component => c.val) = some := by
      funext c
      exact Component.ofText?_val c
    rw [hread, List.filterMap_some]

/-- A slash in front adds no component. -/
lemma filterMap_splitOn_slash (t : Text) :
    (('/' :: t).splitOn '/').filterMap Component.ofText? = (t.splitOn '/').filterMap Component.ofText? := by
  rw [splitOn_slash]
  rfl

/-- The text of components does not begin with a slash. -/
lemma head?_componentsText (cs : List Component) : (componentsText cs).head? ≠ some '/' := by
  cases cs with
  | nil => simp [componentsText, Text.join]
  | cons c cs =>
    obtain ⟨rest, hrest⟩ := componentsText_cons c cs
    obtain ⟨first, more, hc, hslash⟩ := c.exists_cons
    rw [hrest, hc]
    simpa using hslash

/-- The text of a path is read as the path. -/
lemma ofText_text (p : Path) : ofText p.text = p := by
  obtain ⟨anchor, components⟩ := p
  unfold text
  split
  · next h =>
    obtain ⟨rfl, rfl⟩ : anchor = .working ∧ components = [] := h
    exact ofText_dot
  · have hanchor := Anchor.ofText_text_append anchor (head?_componentsText components)
    have hcomponents : ((anchor.text ++ componentsText components).splitOn '/').filterMap Component.ofText?
        = components := by
      cases anchor with
      | working => exact filterMap_splitOn_componentsText components
      -- a slash at the beginning gives an empty piece, which is no component
      | root => exact (filterMap_splitOn_slash _).trans (filterMap_splitOn_componentsText components)
      | doubleRoot =>
        exact (filterMap_splitOn_slash _).trans
          ((filterMap_splitOn_slash _).trans (filterMap_splitOn_componentsText components))
    unfold ofText
    rw [hanchor, hcomponents]

/-- The text of components without an anchor is read as a path that starts where one is. -/
lemma ofText_componentsText (cs : List Component) : ofText (componentsText cs) = ⟨.working, cs⟩ := by
  unfold ofText
  rw [filterMap_splitOn_componentsText]
  exact congrArg (Path.mk · cs) (Anchor.ofText_text_append .working (head?_componentsText cs))

/-- The text of components tells what they are. -/
lemma componentsText_inj {cs ds : List Component} : componentsText cs = componentsText ds ↔ cs = ds := by
  refine ⟨fun h => ?_, congrArg componentsText⟩
  have hread := congrArg (fun t => (ofText t).components) h
  simpa only [ofText_componentsText] using hread

/-- Components are joined to a path by their text. -/
lemma join_componentsText (p : Path) (cs : List Component) :
    p.join (ofText (componentsText cs)) = { p with components := p.components ++ cs } := by
  rw [ofText_componentsText]
  rfl

/-- A single component is read from its own text. -/
lemma ofText_val (c : Component) : ofText c.val = ⟨.working, [c]⟩ := by
  have h := ofText_componentsText [c]
  rwa [componentsText, Text.join, List.map_singleton, List.intercalate_singleton] at h

/-! ## Normal form -/

/-- An absolute path without double dots. -/
structure IsNormal (p : Path) : Prop where
  absolute : p.isAbsolute = true
  up_notMem : Component.up ∉ p.components

lemma isAbsolute_iff {p : Path} : p.isAbsolute = true ↔ p.anchor ≠ .working := by
  unfold isAbsolute
  rw [decide_eq_true_eq]

/-- Components that have a name are put one onto the other. -/
lemma foldl_climb_names {anchor : Anchor} {cs : List Component} (h : Component.up ∉ cs)
    (done : List Component) : cs.foldl (climb anchor) done = cs.reverse ++ done := by
  induction cs generalizing done with
  | nil => rfl
  | cons c cs ih =>
    simp only [List.mem_cons, not_or] at h
    have hstep : climb anchor done c = c :: done := by
      unfold climb
      rw [if_pos (Ne.symm h.1)]
    rw [List.foldl_cons, hstep, ih h.2, List.reverse_cons, List.append_assoc]
    rfl

/-- Double dots below an anchor take back one component, if there is one. -/
lemma climb_up {anchor : Anchor} (hanchor : anchor ≠ .working) {done : List Component}
    (h : Component.up ∉ done) : climb anchor done .up = done.tail := by
  unfold climb
  rw [if_neg (not_not.mpr rfl)]
  cases done with
  | nil => simp [hanchor]
  | cons d rest =>
    have hd : d ≠ .up := fun hd => h (by rw [hd]; exact List.mem_cons_self)
    simp [hd]

/-- Each way up leaves out one of the components so far. -/
lemma foldl_climb_ups {anchor : Anchor} (hanchor : anchor ≠ .working) (k : Nat) {done : List Component}
    (h : Component.up ∉ done) : (List.replicate k Component.up).foldl (climb anchor) done = done.drop k := by
  induction k generalizing done with
  | zero => rfl
  | succ k ih =>
    have htail : Component.up ∉ done.tail := fun hmem => h (List.mem_of_mem_tail hmem)
    rw [List.replicate_succ, List.foldl_cons, climb_up hanchor h, ih htail, List.drop_tail]

/-- One step below an anchor leaves no double dots behind. -/
lemma up_notMem_climb {anchor : Anchor} (hanchor : anchor ≠ .working) {done : List Component}
    (h : Component.up ∉ done) (c : Component) : Component.up ∉ climb anchor done c := by
  by_cases hc : c = .up
  · subst hc
    rw [climb_up hanchor h]
    exact fun hmem => h (List.mem_of_mem_tail hmem)
  · unfold climb
    rw [if_pos hc, List.mem_cons, not_or]
    exact ⟨Ne.symm hc, h⟩

/-- No way up is left over when the path has an anchor. -/
lemma up_notMem_foldl_climb {anchor : Anchor} (hanchor : anchor ≠ .working) (cs : List Component)
    {done : List Component} (h : Component.up ∉ done) : Component.up ∉ cs.foldl (climb anchor) done := by
  induction cs generalizing done with
  | nil => exact h
  | cons c cs ih =>
    rw [List.foldl_cons]
    exact ih (up_notMem_climb hanchor h c)

/-- What is made normal is so, if it is absolute. -/
lemma isNormal_normal {p : Path} (h : p.isAbsolute = true) : p.normal.IsNormal := by
  have hanchor := isAbsolute_iff.1 h
  refine ⟨h, ?_⟩
  show Component.up ∉ (p.components.foldl (climb p.anchor) []).reverse
  rw [List.mem_reverse]
  exact up_notMem_foldl_climb hanchor p.components List.not_mem_nil

/-- What is normal stays as it is. -/
lemma IsNormal.normal_eq {p : Path} (h : p.IsNormal) : p.normal = p := by
  unfold normal
  rw [foldl_climb_names h.up_notMem, List.append_nil, List.reverse_reverse]

/-- An absolute path is not taken below another. -/
lemma join_of_isAbsolute {p : Path} (q : Path) (h : p.isAbsolute = true) : q.join p = p := by
  unfold join
  rw [if_pos h]

/-- What is below an absolute path is absolute. -/
lemma isAbsolute_join {p : Path} (q : Path) (h : p.isAbsolute = true) : (p.join q).isAbsolute = true := by
  unfold join
  split
  · next hq => exact hq
  · exact h

/-- An absolute path, as the program makes it, is normal. -/
lemma isNormal_absolute {cwd : Path} (p : Path) (hcwd : cwd.isAbsolute = true) : (p.absolute cwd).IsNormal :=
  isNormal_normal (isAbsolute_join p hcwd)

/-- A normal path is already what it would be made. -/
lemma IsNormal.absolute_eq {p : Path} (h : p.IsNormal) (cwd : Path) : p.absolute cwd = p := by
  unfold Path.absolute
  rw [join_of_isAbsolute cwd h.absolute, h.normal_eq]

/-- The directory of a normal path is normal. -/
lemma IsNormal.parent {p : Path} (h : p.IsNormal) : p.parent.IsNormal :=
  ⟨h.absolute, fun hmem => h.up_notMem (List.dropLast_subset p.components hmem)⟩

/-! ## The way from one path to another -/

/-- Of two lists of components, the front that they have in common is left out. -/
lemma withoutCommon_spec (ps qs : List Component) :
    ∃ common, ps = common ++ (withoutCommon ps qs).1 ∧ qs = common ++ (withoutCommon ps qs).2 := by
  fun_induction withoutCommon ps qs with
  | case1 ps c qs ih =>
    obtain ⟨common, hps, hqs⟩ := ih
    exact ⟨c :: common, congrArg (c :: ·) hps, congrArg (c :: ·) hqs⟩
  | case2 => exact ⟨[], rfl, rfl⟩
  | case3 => exact ⟨[], rfl, rfl⟩

/-- The way to a normal path from a normal path: ascents to a directory above both, then the names below it. -/
lemma relativeTo_eq {p base : Path} (hp : p.IsNormal) (hbase : base.IsNormal) (cwd : Path) :
    ∃ common down up, p.components = common ++ down ∧ base.components = common ++ up ∧
      p.relativeTo base cwd = ⟨.working, List.replicate up.length .up ++ down⟩ := by
  obtain ⟨common, hdown, hup⟩ := withoutCommon_spec p.components base.components
  refine ⟨common, _, _, hdown, hup, ?_⟩
  unfold relativeTo
  rw [hp.absolute_eq, hbase.absolute_eq]

/-- The way from one normal path to another leads there, if both start at the same anchor. -/
lemma normal_join_relativeTo {p base : Path} (hp : p.IsNormal) (hbase : base.IsNormal) (cwd : Path)
    (hanchor : p.anchor = base.anchor) : (base.join (p.relativeTo base cwd)).normal = p := by
  obtain ⟨common, down, up, hdown, hup, hway⟩ := relativeTo_eq hp hbase cwd
  have hnames : Component.up ∉ common ∧ Component.up ∉ down := by
    have hmem := hp.up_notMem
    rw [hdown, List.mem_append, not_or] at hmem
    exact hmem
  have hjoin : base.join (p.relativeTo base cwd)
      = ⟨base.anchor, base.components ++ (List.replicate up.length .up ++ down)⟩ := by
    rw [hway]
    rfl
  -- the base is climbed down, its own names are climbed up again, and the names of the path follow
  have hclimb : (base.components ++ (List.replicate up.length Component.up ++ down)).foldl (climb base.anchor) []
      = (common ++ down).reverse := by
    rw [List.foldl_append, List.foldl_append, foldl_climb_names hbase.up_notMem, List.append_nil,
      foldl_climb_ups (isAbsolute_iff.1 hbase.absolute) _ (by simpa using hbase.up_notMem),
      foldl_climb_names hnames.2, hup, List.reverse_append, List.reverse_append,
      List.drop_left' (by simp)]
  rw [hjoin]
  unfold normal
  rw [hclimb, List.reverse_reverse, ← hdown, ← hanchor]

end Path

namespace Argument

variable {arg : Argument} {name : String} {cwd p : Path}

/-- An argument is accepted if it is of the right kind and gives a text that is not empty and holds no NUL; the
path is the absolute one that this text names. -/
lemma require_eq_ok_iff :
    arg.require name cwd = .ok p ↔
      arg.isPathKind = true ∧
        ∃ t : Text, arg.given = .ok (some t) ∧ t ≠ [] ∧ '\x00' ∉ t ∧ (Path.ofText t).absolute cwd = p := by
  unfold require
  by_cases hkind : arg.isPathKind = true
  · cases hgiven : arg.given with
    | error e => simp [hkind, bind, Except.bind]
    | ok given =>
      cases given with
      | none => simp [hkind, bind, Except.bind, throw, throwThe, MonadExceptOf.throw]
      | some t =>
        by_cases hempty : t = []
        · simp [hkind, hempty, bind, Except.bind, throw, throwThe, MonadExceptOf.throw]
        · by_cases hnul : '\x00' ∈ t
          · simp [hkind, hempty, hnul, bind, Except.bind, throw, throwThe, MonadExceptOf.throw]
          · simp [hkind, hempty, hnul, bind, Except.bind, pure, Except.pure]
  · simp [hkind, bind, Except.bind, throw, throwThe, MonadExceptOf.throw]

/-- Whether an argument is accepted does not depend on what messages call it. -/
lemma require_congr (name' : String) (h : arg.require name cwd = .ok p) : arg.require name' cwd = .ok p :=
  require_eq_ok_iff.2 (require_eq_ok_iff.1 h)

/-- An argument that is accepted gives a normal path. -/
lemma isNormal_of_require (hcwd : cwd.isAbsolute = true) (h : arg.require name cwd = .ok p) : p.IsNormal := by
  obtain ⟨-, t, -, -, -, rfl⟩ := require_eq_ok_iff.1 h
  exact Path.isNormal_absolute _ hcwd

end Argument

end Counterpart
