import Counterpart.Proofs.Text.LowerCase

/-!
# Blanks around a text

A blank is no letter, and no letter is looked for behind one.  So the blanks around a text have no part in its
lower-case form (`strip_lower`).
-/

namespace Counterpart.Text

variable {t blanks before : Text} {c : Char}

/-! ## Blanks -/

/-- Two lists of ranges have no code point in common. -/
def areApart (ranges others : List (Nat × Nat)) : Bool :=
  ranges.all fun range => others.all fun other => Nat.blt range.2 other.1 || Nat.blt other.2 range.1

lemma inRanges_eq_false_of_areApart {ranges others : List (Nat × Nat)} {n : Nat} (h : areApart ranges others = true)
    (hn : inRanges n ranges = true) : inRanges n others = false := by
  obtain ⟨range, hrange, hbetween⟩ := List.any_eq_true.mp hn
  rw [inRanges, List.any_eq_false]
  intro other hother
  have hapart := List.all_eq_true.mp (List.all_eq_true.mp h range hrange) other hother
  simp only [Bool.or_eq_true, Nat.blt_eq] at hapart
  simp only [Bool.and_eq_true, decide_eq_true_eq] at hbetween ⊢
  omega

lemma areApart_caseIgnorable : areApart blankRanges caseIgnorableRanges = true := by decide +kernel

lemma areApart_cased : areApart blankRanges casedRanges = true := by decide +kernel

lemma areApart_caseRuns : areApart blankRanges (caseRuns.map fun run => (run.first, run.last)) = true := by
  decide +kernel

/-- A blank is in lower case. -/
lemma isLower_of_isBlank (h : isBlank c = true) : IsLower c := by
  have hne (d : Char) (hd : isBlank d = false) : c ≠ d := by
    rintro rfl
    exact absurd (hd.symm.trans h) (by decide)
  refine ⟨hne 'Σ' (by decide), hne 'İ' (by decide), fun run hrun => ?_⟩
  have hnone := inRanges_eq_false_of_areApart areApart_caseRuns h
  rw [inRanges, List.any_eq_false] at hnone
  have hnot := hnone _ (List.mem_map_of_mem hrun)
  rw [Bool.eq_false_iff, ne_eq, CaseRun.contains_iff]
  rintro ⟨hfirst, hlast, -⟩
  exact hnot (by simp [hfirst, hlast])

/-- A blank ends a word. -/
lemma startsCased_of_isBlank (h : isBlank c = true) (t : Text) : startsCased (c :: t) = false := by
  rw [startsCased_cons, inRanges_eq_false_of_areApart areApart_cased h, isCaseIgnorable,
    inRanges_eq_false_of_areApart areApart_caseIgnorable h]
  rfl

/-! ## Blanks before and behind a text -/

lemma lowerAfter_blanks_append (h : ∀ c ∈ blanks, isBlank c = true) (hbefore : startsCased before = false) (t : Text) :
    lowerAfter before (blanks ++ t) = blanks ++ lower t := by
  induction blanks generalizing before with
  | nil => exact lowerAfter_congr hbefore t
  | cons c blanks ih =>
    have hc := h c List.mem_cons_self
    rw [List.cons_append, lowerAfter_cons, (hasForm_formOf _ c _).eq_of_isLower (isLower_of_isBlank hc),
      ih (fun d hd => h d (List.mem_cons_of_mem c hd)) (startsCased_of_isBlank hc before)]
    rfl

lemma startsCased_append_blanks (h : ∀ c ∈ blanks, isBlank c = true) (t : Text) :
    startsCased (t ++ blanks) = startsCased t := by
  induction t with
  | nil =>
    cases blanks with
    | nil => rfl
    | cons c blanks => exact startsCased_of_isBlank (h c List.mem_cons_self) blanks
  | cons c t ih => rw [List.cons_append, startsCased_cons, startsCased_cons, ih]

lemma lowerAfter_append_blanks (h : ∀ c ∈ blanks, isBlank c = true) (before t : Text) :
    lowerAfter before (t ++ blanks) = lowerAfter before t ++ blanks := by
  induction t generalizing before with
  | nil => exact lowerAfter_of_isLower (fun c hc => isLower_of_isBlank (h c hc)) before
  | cons c t ih =>
    have hform : formOf before c (t ++ blanks) = formOf before c t := by
      unfold formOf endsWord
      rw [startsCased_append_blanks h]
    rw [List.cons_append, lowerAfter_cons, lowerAfter_cons, ih, hform, List.append_assoc]

/-- The blanks around a text stay around its form. -/
lemma strip_lower (t : Text) : strip (lower t) = lower (strip t) := by
  obtain ⟨before, after, ht, hbefore, hafter⟩ := exists_trim isBlank t
  have hform : lower t = before ++ (lower (strip t) ++ after) := by
    calc lower t = lowerAfter [] (before ++ (strip t ++ after)) := congrArg (lowerAfter []) ht
      _ = before ++ lower (strip t ++ after) := lowerAfter_blanks_append hbefore rfl _
      _ = before ++ (lower (strip t) ++ after) :=
        congrArg (before ++ ·) (lowerAfter_append_blanks hafter [] (strip t))
  rw [hform, strip, trim_around hbefore hafter]
  exact strip_lower_strip t

end Counterpart.Text
