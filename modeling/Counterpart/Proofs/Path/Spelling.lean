import Counterpart.Proofs.Path.Characters
import Mathlib.Data.List.TakeWhile
import Mathlib.Logic.Relation

/-!
# Spellings of paths

A path can be spelled in many ways.  All that matters of a spelling are the slashes at its beginning and the components
that lead somewhere.

* `isNormalText_text`: what the text of a normal path looks like;
* `ofText_joinText`: a text behind that of a directory is read as the path seen from there;
* `SpellsSame.absolute_eq`: spellings that differ by what leads nowhere have the same normal form.
-/

namespace Counterpart.Path

variable {p cwd : Path} {t u w : Text}

/-! ## Names -/

/-- A component by which a path goes down. -/
structure IsName (t : Text) : Prop where
  ne_nil : t ≠ []
  ne_dot : t ≠ ['.']
  ne_up : t ≠ ['.', '.']
  slash_notMem : '/' ∉ t

/-- A component is a name, unless it is the way up. -/
lemma isName_val {c : Component} (h : c ≠ .up) : IsName c.val where
  ne_nil := c.ne_nil
  ne_dot := by
    have hc := c.property
    simp only [isComponent, Bool.and_eq_true, decide_eq_true_eq] at hc
    exact hc.1.2
  ne_up := fun hup => h (Subtype.ext hup)
  slash_notMem := c.slash_notMem

/-- Each name is the text of a component. -/
lemma IsName.exists_component (h : IsName t) : ∃ c : Component, c.val = t ∧ c ≠ .up := by
  have hcomponent : isComponent t = true := by
    unfold isComponent
    simp [h.ne_nil, h.ne_dot, h.slash_notMem]
  exact ⟨⟨t, hcomponent⟩, rfl, fun hup => h.ne_up (congrArg Subtype.val hup)⟩

/-! ## Slashes at the beginning -/

/-- The number of slashes at the beginning of a text. -/
def leadingSlashes (t : Text) : Nat := (t.takeWhile (· = '/')).length

/-- The anchor that some slashes write: one of its own for two, and the root for more. -/
def anchorOf : Nat → Anchor
  | 0 => .working
  | 1 => .root
  | 2 => .doubleRoot
  | _ + 3 => .root

/-- A text is its slashes in front and what follows. -/
lemma exists_slashes (t : Text) :
    ∃ rest : Text, t = List.replicate (leadingSlashes t) '/' ++ rest ∧ rest.head? ≠ some '/' := by
  refine ⟨t.dropWhile (· = '/'), ?_, fun hhead => ?_⟩
  · have hslashes : t.takeWhile (· = '/') = List.replicate (leadingSlashes t) '/' :=
      List.eq_replicate_of_mem fun c hc => by simpa using List.mem_takeWhile_imp hc
    rw [← hslashes, List.takeWhile_append_dropWhile]
  · have hnot := List.head?_dropWhile_not (fun c : Char => decide (c = '/')) t
    rw [hhead] at hnot
    simp at hnot

/-- The slashes in front are counted up to the first other character. -/
lemma leadingSlashes_replicate (n : Nat) (h : t.head? ≠ some '/') :
    leadingSlashes (List.replicate n '/' ++ t) = n := by
  have hnone : t.takeWhile (· = '/') = [] := by
    cases t with
    | nil => rfl
    | cons c t => exact List.takeWhile_cons_of_neg (by simpa using h)
  unfold leadingSlashes
  rw [List.takeWhile_append_of_pos (by simp), hnone, List.append_nil, List.length_replicate]

/-- Their number tells where a path begins. -/
lemma anchor_replicate (n : Nat) (h : t.head? ≠ some '/') :
    Anchor.ofText (List.replicate n '/' ++ t) = anchorOf n := by
  match n with
  | 0 => exact Anchor.ofText_text_append .working h
  | 1 => exact Anchor.ofText_text_append .root h
  | 2 => exact Anchor.ofText_text_append .doubleRoot h
  | _ + 3 => rfl

/-- Of the slashes at the beginning of a text only their number matters. -/
lemma anchor_ofText (t : Text) : (ofText t).anchor = anchorOf (leadingSlashes t) := by
  obtain ⟨rest, hrest, hhead⟩ := exists_slashes t
  show Anchor.ofText t = _
  generalize leadingSlashes t = n at hrest ⊢
  rw [hrest, anchor_replicate n hhead]

/-- A path is absolute if its text begins with a slash. -/
lemma isAbsolute_ofText_iff : (ofText t).isAbsolute = true ↔ t.head? = some '/' := by
  obtain ⟨rest, hrest, hhead⟩ := exists_slashes t
  rw [isAbsolute_iff, anchor_ofText]
  generalize leadingSlashes t = n at hrest ⊢
  rw [hrest]
  match n with
  | 0 => exact iff_of_false (fun h => h rfl) hhead
  | 1 => exact iff_of_true (by decide) rfl
  | 2 => exact iff_of_true (by decide) rfl
  | _ + 3 => exact iff_of_true (by show Anchor.root ≠ .working; decide) rfl

/-- An absolute path is written with as many slashes in front as its anchor has. -/
lemma leadingSlashes_text (h : p.isAbsolute = true) : leadingSlashes p.text = p.anchor.text.length := by
  have hanchor := isAbsolute_iff.mp h
  unfold text
  rw [if_neg fun hdot => hanchor hdot.1]
  have hslashes : p.anchor.text = List.replicate p.anchor.text.length '/' := by cases p.anchor <;> rfl
  rw [hslashes, leadingSlashes_replicate _ (head?_componentsText p.components), List.length_replicate]

/-- An anchor is written with two slashes exactly if two slashes were read. -/
lemma length_anchor_eq_two_iff (n : Nat) : (anchorOf n).text.length = 2 ↔ n = 2 := by
  match n with
  | 0 => decide
  | 1 => decide
  | 2 => decide
  | n + 3 => exact iff_of_false (show ¬ 1 = 2 by omega) (by omega)

/-! ## Texts in normal form -/

/-- A text that writes an absolute path in normal form: one slash or two, and then names with a slash between any two of
them. -/
inductive IsNormalText : Text → Prop
  | intro {slashes : Nat} {names : List Text} (hslashes : slashes = 1 ∨ slashes = 2)
      (hnames : ∀ name ∈ names, IsName name) : IsNormalText (List.replicate slashes '/' ++ Text.join '/' names)

/-- All components of a normal path are names. -/
lemma IsNormal.isName (h : p.IsNormal) : ∀ c ∈ p.components, IsName c.val :=
  fun _ hc => isName_val fun hup => h.up_notMem (hup ▸ hc)

/-- A normal path has a normal text. -/
lemma isNormalText_text (h : p.IsNormal) : IsNormalText p.text := by
  have hanchor := isAbsolute_iff.mp h.absolute
  have hnames : ∀ name ∈ p.components.map (·.val), IsName name := by
    intro name hname
    obtain ⟨c, hc, rfl⟩ := List.mem_map.mp hname
    exact h.isName c hc
  unfold text
  rw [if_neg fun hdot => hanchor hdot.1]
  cases hp : p.anchor with
  | working => exact absurd hp hanchor
  | root => exact .intro (.inl rfl) hnames
  | doubleRoot => exact .intro (.inr rfl) hnames

/-! ## Texts behind others -/

/-- A text behind that of a directory, with a slash between them if there is none.  A text that begins with a slash
stands for itself. -/
def joinText (w t : Text) : Text :=
  if t.head? = some '/' then t
  else if w = [] ∨ w.getLast? = some '/' then w ++ t
  else w ++ '/' :: t

/-- A slash parts components. -/
lemma components_ofText_append (s t : Text) :
    (ofText (s ++ '/' :: t)).components = (ofText s).components ++ (ofText t).components := by
  show List.filterMap _ _ = List.filterMap _ _ ++ List.filterMap _ _
  rw [List.splitOn_append_cons_self, List.filterMap_append]

/-- What follows does not change the slashes at the beginning of a text, unless the text has nothing else and they go
on. -/
lemma anchor_ofText_append (h : t.head? ≠ some '/' ∨ w ≠ List.replicate (leadingSlashes w) '/') :
    (ofText (w ++ t)).anchor = (ofText w).anchor := by
  obtain ⟨rest, hrest, hhead⟩ := exists_slashes w
  have hmore : (rest ++ t).head? ≠ some '/' := by
    cases rest with
    | nil => exact h.resolve_right fun hall => hall (by simpa using hrest)
    | cons c rest => exact hhead
  rw [anchor_ofText w]
  show Anchor.ofText (w ++ t) = _
  generalize leadingSlashes w = n at hrest ⊢
  rw [hrest, List.append_assoc, anchor_replicate n hmore]

/-- A text behind that of a directory is read as the path seen from there. -/
lemma ofText_joinText (w t : Text) : ofText (joinText w t) = (ofText w).join (ofText t) := by
  by_cases hhead : t.head? = some '/'
  · unfold joinText
    rw [if_pos hhead, join_of_isAbsolute _ (isAbsolute_ofText_iff.mpr hhead)]
  · have hjoin : (ofText w).join (ofText t)
        = ⟨(ofText w).anchor, (ofText w).components ++ (ofText t).components⟩ := by
      have hanchor : (ofText t).anchor = .working := Anchor.ofText_text_append .working hhead
      unfold join isAbsolute
      rw [hanchor]
      rfl
    have hparts : (ofText (joinText w t)).anchor = (ofText w).anchor ∧
        (ofText (joinText w t)).components = (ofText w).components ++ (ofText t).components := by
      unfold joinText
      rw [if_neg hhead]
      split
      · next hslash =>
        refine ⟨anchor_ofText_append (.inl hhead), ?_⟩
        rcases hslash with rfl | hlast
        · rfl
        · -- the slash at the end is the one between the two
          obtain ⟨w', rfl⟩ := List.getLast?_eq_some_iff.mp hlast
          have hend := components_ofText_append w' []
          rw [show (ofText []).components = [] from rfl, List.append_nil] at hend
          rw [hend, List.append_assoc, List.singleton_append, components_ofText_append]
      · next hslash =>
        refine ⟨anchor_ofText_append (.inr fun hall => hslash ?_), components_ofText_append w t⟩
        rw [hall, List.replicate_eq_nil_iff, List.getLast?_replicate]
        split
        · next hnone => exact .inl hnone
        · exact .inr rfl
    rw [hjoin, ← hparts.1, ← hparts.2]

/-- The path seen from a directory is written with two slashes exactly if the text behind that of the directory begins
with two. -/
lemma leadingSlashes_absolute_eq_two_iff (hcwd : cwd.isAbsolute = true) (t : Text) :
    leadingSlashes ((ofText t).absolute cwd).text = 2 ↔ leadingSlashes (joinText cwd.text t) = 2 := by
  have hanchor : ((ofText t).absolute cwd).anchor = anchorOf (leadingSlashes (joinText cwd.text t)) := by
    rw [← anchor_ofText, ofText_joinText, ofText_text]
    rfl
  rw [leadingSlashes_text (isNormal_absolute _ hcwd).absolute, hanchor, length_anchor_eq_two_iff]

/-! ## Components that lead nowhere -/

/-- Components with something left out that leads nowhere: an empty one, a dot, or a name with the way up behind it. -/
inductive LeavesOut : List Text → List Text → Prop
  | blank (before behind : List Text) {c : Text} (h : c = [] ∨ c = ['.']) :
      LeavesOut (before ++ c :: behind) (before ++ behind)
  | back (before behind : List Text) {name : Text} (h : IsName name) :
      LeavesOut (before ++ name :: ['.', '.'] :: behind) (before ++ behind)

/-- Two texts begin with the same slashes, and differ by nothing but components that lead nowhere: some are left out,
others put in. -/
structure SpellsSame (t u : Text) : Prop where
  slashes : leadingSlashes t = leadingSlashes u
  components : Relation.EqvGen LeavesOut (t.splitOn '/') (u.splitOn '/')

/-- A step down and a step up again lead nowhere. -/
lemma climb_back (anchor : Anchor) (done : List Component) {c : Component} (h : c ≠ .up) :
    climb anchor (climb anchor done c) .up = done := by
  simp [climb, h]

/-- What is left out makes no difference to where the components lead. -/
lemma LeavesOut.foldl_climb {cs ds : List Text} (h : LeavesOut cs ds) (anchor : Anchor) (done : List Component) :
    (cs.filterMap Component.ofText?).foldl (climb anchor) done
      = (ds.filterMap Component.ofText?).foldl (climb anchor) done := by
  cases h with
  | @blank before behind c hc =>
    have hnone : Component.ofText? c = none := by
      rcases hc with rfl | rfl <;> rfl
    rw [List.filterMap_append, List.filterMap_append, List.filterMap_cons_none hnone]
  | back before behind hname =>
    obtain ⟨c, rfl, hc⟩ := hname.exists_component
    have hup : Component.ofText? ['.', '.'] = some .up := rfl
    rw [List.filterMap_append, List.filterMap_append, List.filterMap_cons_some (Component.ofText?_val c),
      List.filterMap_cons_some hup, List.foldl_append, List.foldl_append, List.foldl_cons, List.foldl_cons,
      climb_back anchor _ hc]

/-- Where components lead does not change when such ones are left out and put in, as often as one likes. -/
lemma foldl_climb_eqvGen {cs ds : List Text} (h : Relation.EqvGen LeavesOut cs ds) (anchor : Anchor)
    (done : List Component) :
    (cs.filterMap Component.ofText?).foldl (climb anchor) done
      = (ds.filterMap Component.ofText?).foldl (climb anchor) done := by
  let climbed (cs : List Text) := (cs.filterMap Component.ofText?).foldl (climb anchor) done
  have hsame : Relation.EqvGen (fun cs ds => climbed cs = climbed ds) cs ds :=
    h.mono fun _ _ hstep => hstep.foldl_climb anchor done
  exact (eq_equivalence.comap climbed).eqvGen_iff.mp hsame

/-- Spellings that differ by what leads nowhere have the same normal form. -/
lemma SpellsSame.absolute_eq (h : SpellsSame t u) (cwd : Path) :
    (ofText t).absolute cwd = (ofText u).absolute cwd := by
  have hanchor : (ofText t).anchor = (ofText u).anchor := by rw [anchor_ofText, anchor_ofText, h.slashes]
  have hclimb (anchor : Anchor) (done : List Component) :
      (ofText t).components.foldl (climb anchor) done = (ofText u).components.foldl (climb anchor) done :=
    foldl_climb_eqvGen h.components anchor done
  unfold absolute join isAbsolute
  rw [hanchor]
  split
  · unfold normal
    rw [hanchor, hclimb]
  · unfold normal
    dsimp only
    rw [List.foldl_append, List.foldl_append, hclimb]

end Counterpart.Path
