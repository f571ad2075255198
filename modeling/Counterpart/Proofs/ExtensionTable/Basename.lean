import Counterpart.Proofs.ExtensionTable.Longest

/-!
# Base names

What is left of a stem once a companion suffix is taken off its end.

* `leaves_withoutSuffix`: the first of the suffixes that fits is taken off, and nothing if none fits;
* `withoutSuffix_append` and `withoutSuffix_of_noSuffix`: if no suffix ends another one, their order does not matter.
-/

namespace Counterpart.ExtensionTable

variable {suffixes : List Text} {stem basename : Text}

/-- What a stem leaves when the first of some suffixes that fits it is taken off its end. -/
inductive Leaves (suffixes : List Text) (stem : Text) : Text → Prop
  | whole (h : ∀ suffix ∈ suffixes, ¬ Fits stem suffix) : Leaves suffixes stem stem
  | short {rest suffix : Text} {before after : List Text} (hsuffixes : suffixes = before ++ suffix :: after)
      (hfirst : ∀ other ∈ before, ¬ Fits stem other) (hstem : stem = rest ++ suffix) (hrest : rest ≠ []) :
      Leaves suffixes stem rest

lemma fits_append_iff {rest suffix : Text} : Fits (rest ++ suffix) suffix ↔ rest ≠ [] := by
  constructor
  · rintro h rfl
    exact absurd h.shorter (lt_irrefl _)
  · intro hrest
    have hlength := List.length_pos_iff.mpr hrest
    exact ⟨List.suffix_append rest suffix, by rw [List.length_append]; omega⟩

lemma leaves_withoutSuffix (suffixes : List Text) (stem : Text) :
    Leaves suffixes stem (withoutSuffix suffixes stem) := by
  unfold withoutSuffix
  cases hfind : suffixes.find? (endsWithin stem) with
  | none =>
    refine .whole fun suffix hsuffix hfits => ?_
    exact List.find?_eq_none.mp hfind suffix hsuffix (endsWithin_iff.mpr hfits)
  | some suffix =>
    obtain ⟨hends, before, after, hsuffixes, hbefore⟩ := List.find?_eq_some_iff_append.mp hfind
    have hfits := endsWithin_iff.mp hends
    obtain ⟨rest, rfl⟩ := hfits.suffix
    have htake : (rest ++ suffix).take ((rest ++ suffix).length - suffix.length) = rest := by simp
    dsimp only
    rw [htake]
    refine .short hsuffixes (fun other hother hfit => ?_) rfl (fits_append_iff.mp hfits)
    exact absurd (endsWithin_iff.mpr hfit) (by simpa using hbefore other hother)

lemma Leaves.isPrefix (h : Leaves suffixes stem basename) : basename <+: stem := by
  cases h with
  | whole => exact List.prefix_rfl
  | short _ _ hstem => exact ⟨_, hstem.symm⟩

/-- If anything is taken off, it is one of the suffixes. -/
lemma Leaves.eq_or_append (h : Leaves suffixes stem basename) :
    (basename = stem ∧ ∀ suffix ∈ suffixes, ¬ Fits stem suffix) ∨
      ∃ suffix ∈ suffixes, stem = basename ++ suffix ∧ basename ≠ [] := by
  cases h with
  | whole h => exact .inl ⟨rfl, h⟩
  | @short _ suffix _ _ hsuffixes _ hstem hrest =>
    have hmem : suffix ∈ suffixes := by
      rw [hsuffixes]
      exact List.mem_append_right _ List.mem_cons_self
    exact .inr ⟨suffix, hmem, hstem, hrest⟩

/-- A suffix is not taken off if it is all that there is. -/
lemma Leaves.eq_nil_iff (h : Leaves suffixes stem basename) : basename = [] ↔ stem = [] := by
  cases h with
  | whole => exact Iff.rfl
  | short _ _ hstem hrest =>
    refine iff_of_false hrest fun hnil => hrest ?_
    exact (List.append_eq_nil_iff.mp (hstem.symm.trans hnil)).1

/-! ## Suffixes that do not end each other -/

/-- No suffix ends another one. -/
def IsApart (suffixes : List Text) : Prop :=
  ∀ suffix ∈ suffixes, ∀ other ∈ suffixes, suffix <:+ other → suffix = other

/-- Two suffixes that end the same text are the same. -/
lemma IsApart.eq_of_suffix (hapart : IsApart suffixes) {suffix other : Text} (hsuffix : suffix ∈ suffixes)
    (hother : other ∈ suffixes) (hends : suffix <:+ stem) (hotherEnds : other <:+ stem) : suffix = other := by
  rcases List.suffix_or_suffix_of_suffix hends hotherEnds with h | h
  · exact hapart suffix hsuffix other hother h
  · exact (hapart other hother suffix hsuffix h).symm

/-- A suffix is taken off, whatever the order of the suffixes. -/
lemma withoutSuffix_append (hapart : IsApart suffixes) {suffix : Text} (hsuffix : suffix ∈ suffixes)
    (hstem : stem ≠ []) : withoutSuffix suffixes (stem ++ suffix) = stem := by
  rcases (leaves_withoutSuffix suffixes (stem ++ suffix)).eq_or_append with ⟨-, hnone⟩ | ⟨other, hother, heq, -⟩
  · exact absurd (fits_append_iff.mpr hstem) (hnone suffix hsuffix)
  · obtain rfl := hapart.eq_of_suffix hsuffix hother (List.suffix_append stem suffix) ⟨_, heq.symm⟩
    exact (List.append_cancel_right heq).symm

/-- Nothing is taken off a stem that no suffix ends, nor off one that is a suffix itself. -/
lemma withoutSuffix_of_noSuffix (hapart : IsApart suffixes)
    (hstem : (∀ suffix ∈ suffixes, ¬ suffix <:+ stem) ∨ stem ∈ suffixes) : withoutSuffix suffixes stem = stem := by
  rcases (leaves_withoutSuffix suffixes stem).eq_or_append with ⟨heq, -⟩ | ⟨other, hother, heq, hrest⟩
  · exact heq
  · have hends : other <:+ stem := ⟨_, heq.symm⟩
    rcases hstem with hnone | hself
    · exact absurd hends (hnone other hother)
    · -- the suffix would be the whole stem
      have hsame := hapart.eq_of_suffix hother hself hends List.suffix_rfl
      have hlength := congrArg List.length heq
      rw [hsame, List.length_append] at hlength
      have hpos := List.length_pos_iff.mpr hrest
      omega

end Counterpart.ExtensionTable
