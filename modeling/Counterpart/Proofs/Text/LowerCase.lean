import Counterpart.Proofs.Text.Trim
import Counterpart.Text.LowerCase

/-!
# Lower case

The lower-case form of a text is nearly that of its characters one by one: only the form of a capital sigma hangs on
what stands around it.

* `HasForm`: what the form of a character may be;
* `lower_lower` and `strip_lower_strip`: a form has no other form, and only blanks become blanks;
* `exists_lowerAfter_append` and `exists_append_of_lowerAfter_eq`: where a text is cut, and where its form is;
* `lowerAfter_eq_lower_iff`: when the form of a text does not change with what stands before it.
-/

namespace Counterpart.Text

/-! ## The runs -/

/-- No form of a run lies between two code points. -/
def CaseRun.isClearOf (run : CaseRun) (first last : Nat) : Bool :=
  Nat.blt (run.target + (run.last - run.first)) first || Nat.blt last run.target

/-- No form of a run is given a form by another one: they lie apart, or they alternate. -/
def CaseRun.isApart (run other : CaseRun) : Bool :=
  run.isClearOf other.first other.last ||
    (other.stride == 2 && (run.stride == 2 || run.first == run.last) && (run.target + other.first) % 2 == 1)

/-- Code points that are no lower-case form of another one: the dot, the dotted capital I, the capital sigma, the
surrogates and the blanks. -/
def reservedRanges : List (Nat × Nat) :=
  (0x2E, 0x2E) :: (0x130, 0x130) :: (0x3A3, 0x3A3) :: (0xD800, 0xDFFF) :: blankRanges

/-- What a run gives as a form is given no other form by any run. -/
lemma isApart_caseRuns : (caseRuns.all fun run => caseRuns.all run.isApart) = true := by decide +kernel

/-- No run gives a form that is reserved. -/
lemma isClearOf_caseRuns :
    ∀ run ∈ caseRuns, ∀ range ∈ reservedRanges, run.isClearOf range.1 range.2 = true := by decide +kernel

/-- All forms are characters. -/
lemma target_lt_caseRuns : ∀ run ∈ caseRuns, run.target + (run.last - run.first) < 0x110000 := by decide +kernel

/-- The dotted capital I is in no run, as its form has two characters. -/
lemma dottedI_caseRuns : ∀ run ∈ caseRuns, run.contains 0x130 = false := by decide +kernel

/-- The forms that no run gives have no form in any run. -/
lemma fixed_caseRuns : ∀ n ∈ [0x3C2, 0x3C3, 0x69, 0x307],
    inRanges n reservedRanges = false ∧ ∀ run ∈ caseRuns, run.contains n = false := by decide +kernel

/-- The run of the ASCII letters. -/
def letters : CaseRun := ⟨0x41, 0x5A, 1, 0x61⟩

/-- The letters of the alphabet are the one run below all others. -/
lemma first_caseRuns : ∀ run ∈ caseRuns, run = letters ∨ 0x80 ≤ run.first := by decide +kernel

lemma letters_mem : letters ∈ caseRuns := by decide

variable {run other : CaseRun} {n : Nat}

/-- What is in a run lies between its ends, at the distance of its strides. -/
lemma CaseRun.contains_iff :
    run.contains n = true ↔ run.first ≤ n ∧ n ≤ run.last ∧ (n - run.first) % run.stride = 0 := by
  unfold CaseRun.contains
  simp only [Bool.and_eq_true, decide_eq_true_eq, and_assoc]

/-- A form has no form in any run. -/
lemma contains_form_eq_false (hrun : run ∈ caseRuns) (hother : other ∈ caseRuns) (h : run.contains n = true) :
    other.contains (run.target + (n - run.first)) = false := by
  obtain ⟨hfirst, hlast, hstride⟩ := CaseRun.contains_iff.mp h
  rw [Bool.eq_false_iff, ne_eq, CaseRun.contains_iff]
  rintro ⟨hfirst', hlast', hstride'⟩
  have hapart := List.all_eq_true.mp (List.all_eq_true.mp isApart_caseRuns run hrun) other hother
  simp only [CaseRun.isApart, CaseRun.isClearOf, Bool.or_eq_true, Bool.and_eq_true, Nat.blt_eq, beq_iff_eq] at hapart
  rcases hapart with (hless | hless) | ⟨⟨htwo, hform⟩, hodd⟩
  · omega
  · omega
  · -- a run of every other code point holds code points of one parity, and the forms are of the other one
    rw [htwo] at hstride'
    rcases hform with hsame | hsingle
    · rw [hsame] at hstride
      omega
    · omega

/-- No character of a run has a form that is reserved. -/
lemma form_not_inRanges (hrun : run ∈ caseRuns) (h : run.contains n = true) :
    inRanges (run.target + (n - run.first)) reservedRanges = false := by
  obtain ⟨hfirst, hlast, -⟩ := CaseRun.contains_iff.mp h
  unfold inRanges
  rw [List.any_eq_false]
  intro range hrange
  have hclear := isClearOf_caseRuns run hrun range hrange
  simp only [CaseRun.isClearOf, Bool.or_eq_true, Nat.blt_eq] at hclear
  simp only [Bool.and_eq_true, decide_eq_true_eq]
  omega

/-! ## Single characters -/

/-- What the form of a character is: one of the two forms of a sigma, the two characters of a dotted I, the form that a
run gives, or the character itself. -/
inductive HasForm : Char → Text → Prop
  | sigma {d : Char} (h : d = 'ς' ∨ d = 'σ') : HasForm 'Σ' [d]
  | dottedI : HasForm 'İ' ['i', '\u0307']
  | run {c d : Char} {run : CaseRun} (hrun : run ∈ caseRuns) (h : run.contains c.toNat = true)
      (hform : d.toNat = run.target + (c.toNat - run.first)) : HasForm c [d]
  | self {c : Char} (hsigma : c ≠ 'Σ') (hdotted : c ≠ 'İ') (h : ∀ run ∈ caseRuns, run.contains c.toNat = false) :
      HasForm c [c]

/-- The form of a character has the code it is computed by. -/
lemma toNat_ofNat_form (hrun : run ∈ caseRuns) (h : run.contains n = true) :
    (Char.ofNat (run.target + (n - run.first))).toNat = run.target + (n - run.first) := by
  have hlast := (CaseRun.contains_iff.mp h).2.1
  have hbound := target_lt_caseRuns run hrun
  have hsurrogates : ¬ (0xD800 ≤ run.target + (n - run.first) ∧ run.target + (n - run.first) ≤ 0xDFFF) := by
    intro hrange
    have hin : inRanges (run.target + (n - run.first)) reservedRanges = true :=
      List.any_eq_true.mpr ⟨(0xD800, 0xDFFF), by decide, by simpa using hrange⟩
    exact absurd (hin.symm.trans (form_not_inRanges hrun h)) (by decide)
  have hvalid : (run.target + (n - run.first)).isValidChar := by
    unfold Nat.isValidChar
    omega
  rw [Char.ofNat, dif_pos hvalid]
  rfl

/-- In the ASCII part, lower case is the alphabet's. -/
lemma hasForm_ascii {c : Char} (h : c.toNat < 0x80) : HasForm c [c.toLower] := by
  have hall : ∀ n < 0x80, if letters.contains n then (Char.ofNat n).toLower.toNat = letters.target + (n - letters.first)
      else (Char.ofNat n).toLower = Char.ofNat n := by decide
  have hc := hall c.toNat h
  rw [Char.ofNat_toNat] at hc
  split at hc
  · next hletter => exact .run letters_mem hletter hc
  · next hletter =>
    rw [hc]
    refine .self ?_ ?_ fun run hrun => ?_
    · rintro rfl
      exact absurd h (by decide)
    · rintro rfl
      exact absurd h (by decide)
    · rcases first_caseRuns run hrun with rfl | hfirst
      · exact Bool.eq_false_iff.mpr hletter
      · rw [Bool.eq_false_iff, ne_eq, CaseRun.contains_iff]
        omega

/-- Taken alone, a character other than the sigma has the form that the table gives it. -/
lemma hasForm_lowerChar {c : Char} (hsigma : c ≠ 'Σ') : HasForm c (lowerChar c) := by
  unfold lowerChar
  split
  · next h => exact hasForm_ascii h
  · split
    · next h => rw [h]; exact .dottedI
    · next hdotted =>
      split
      · next run hfind =>
        have hrun := List.mem_of_find?_eq_some hfind
        have hcontains := List.find?_some hfind
        exact .run hrun hcontains (toNat_ofNat_form hrun hcontains)
      · next hfind =>
        refine .self hsigma hdotted fun run hrun => ?_
        exact Bool.eq_false_iff.mpr (List.find?_eq_none.mp hfind run hrun)

/-- A character that is in lower case: it has no form but itself, wherever it stands. -/
structure IsLower (c : Char) : Prop where
  ne_sigma : c ≠ 'Σ'
  ne_dottedI : c ≠ 'İ'
  fixed : ∀ run ∈ caseRuns, run.contains c.toNat = false

variable {c d : Char} {form : Text}

/-- A form has one character, and two for the dotted capital I. -/
lemma HasForm.length_eq (h : HasForm c form) : form.length = 1 + if c == 'İ' then 1 else 0 := by
  cases h with
  | sigma => rfl
  | dottedI => rfl
  | run hrun hcontains =>
    have hdotted : c ≠ 'İ' := by
      rintro rfl
      exact absurd hcontains (Bool.eq_false_iff.mp (dottedI_caseRuns _ hrun))
    rw [List.length_singleton, if_neg (by simpa using hdotted)]
  | self _ hdotted _ => rw [List.length_singleton, if_neg (by simpa using hdotted)]

/-- No character vanishes. -/
lemma HasForm.ne_nil (h : HasForm c form) : form ≠ [] := by
  cases h <;> exact List.cons_ne_nil _ _

/-- A dot or a blank is the form of nothing but itself. -/
lemma HasForm.eq_of_reserved (h : HasForm c form) (hd : d ∈ form) (hreserved : inRanges d.toNat reservedRanges = true) :
    c = d := by
  cases h with
  | sigma hform =>
    obtain rfl := List.mem_singleton.mp hd
    rcases hform with rfl | rfl <;> exact absurd hreserved (by decide)
  | dottedI => rcases List.mem_pair.mp hd with rfl | rfl <;> exact absurd hreserved (by decide)
  | run hrun hcontains hform =>
    obtain rfl := List.mem_singleton.mp hd
    rw [hform, form_not_inRanges hrun hcontains] at hreserved
    exact absurd hreserved (by decide)
  | self => exact (List.mem_singleton.mp hd).symm

/-- A form is in lower case. -/
lemma HasForm.isLower (h : HasForm c form) (hd : d ∈ form) : IsLower d := by
  have hreserved (d : Char) (h : inRanges d.toNat reservedRanges = false) : d ≠ 'Σ' ∧ d ≠ 'İ' := by
    constructor <;> (rintro rfl; exact absurd h (by decide))
  have hfixed (d : Char) (h : d.toNat ∈ [0x3C2, 0x3C3, 0x69, 0x307]) : IsLower d := by
    obtain ⟨hnot, hruns⟩ := fixed_caseRuns d.toNat h
    exact ⟨(hreserved d hnot).1, (hreserved d hnot).2, hruns⟩
  cases h with
  | sigma hform =>
    obtain rfl := List.mem_singleton.mp hd
    rcases hform with rfl | rfl <;> exact hfixed _ (by decide)
  | dottedI => rcases List.mem_pair.mp hd with rfl | rfl <;> exact hfixed _ (by decide)
  | run hrun hcontains hform =>
    obtain rfl := List.mem_singleton.mp hd
    have hnot := form_not_inRanges hrun hcontains
    rw [← hform] at hnot
    refine ⟨(hreserved _ hnot).1, (hreserved _ hnot).2, fun other hother => ?_⟩
    rw [hform]
    exact contains_form_eq_false hrun hother hcontains
  | self hsigma hdotted h =>
    obtain rfl := List.mem_singleton.mp hd
    exact ⟨hsigma, hdotted, h⟩

/-- A character in lower case is its own form. -/
lemma HasForm.eq_of_isLower (h : HasForm c form) (hc : IsLower c) : form = [c] := by
  cases h with
  | sigma => exact absurd rfl hc.ne_sigma
  | dottedI => exact absurd rfl hc.ne_dottedI
  | run hrun hcontains => exact absurd hcontains (Bool.eq_false_iff.mp (hc.fixed _ hrun))
  | self => rfl

/-! ## Characters in a text -/

variable {before after t : Text}

/-- The form of a character between two texts, the first of which is given backwards. -/
def formOf (before : Text) (c : Char) (after : Text) : Text :=
  if c = 'Σ' then [if endsWord before after then 'ς' else 'σ'] else lowerChar c

lemma lowerAfter_cons (before : Text) (c : Char) (after : Text) :
    lowerAfter before (c :: after) = formOf before c after ++ lowerAfter (c :: before) after := rfl

/-- Wherever it stands, a character gets one of its forms. -/
lemma hasForm_formOf (before : Text) (c : Char) (after : Text) : HasForm c (formOf before c after) := by
  unfold formOf
  split
  · next hsigma =>
    rw [hsigma]
    refine .sigma ?_
    split
    · exact .inl rfl
    · exact .inr rfl
  · next hsigma => exact hasForm_lowerChar hsigma

/-! ## Texts -/

/-- A form is that of one of the characters. -/
lemma exists_hasForm_of_mem (h : d ∈ lowerAfter before t) : ∃ c ∈ t, ∃ form, HasForm c form ∧ d ∈ form := by
  induction t generalizing before with
  | nil => exact absurd h List.not_mem_nil
  | cons c after ih =>
    rw [lowerAfter_cons, List.mem_append] at h
    rcases h with h | h
    · exact ⟨c, List.mem_cons_self, _, hasForm_formOf before c after, h⟩
    · obtain ⟨c', hc', hform⟩ := ih h
      exact ⟨c', List.mem_cons_of_mem c hc', hform⟩

/-- A text in lower case stays as it is. -/
lemma lowerAfter_of_isLower (h : ∀ c ∈ t, IsLower c) (before : Text) : lowerAfter before t = t := by
  induction t generalizing before with
  | nil => rfl
  | cons c after ih =>
    rw [lowerAfter_cons, ih fun d hd => h d (List.mem_cons_of_mem c hd),
      (hasForm_formOf before c after).eq_of_isLower (h c List.mem_cons_self), List.singleton_append]

/-- What is in lower case stays as it is. -/
lemma lower_lower (t : Text) : lower (lower t) = lower t := by
  refine lowerAfter_of_isLower (fun d hd => ?_) []
  obtain ⟨c, -, form, hform, hmem⟩ := exists_hasForm_of_mem hd
  exact hform.isLower hmem

/-- The form of the second of two texts ends the form of both. -/
lemma exists_lowerAfter_append (before s t : Text) :
    ∃ form, lowerAfter before (s ++ t) = form ++ lowerAfter (s.reverse ++ before) t ∧
      form.length = s.length + s.count 'İ' := by
  induction s generalizing before with
  | nil => exact ⟨[], rfl, rfl⟩
  | cons c s ih =>
    obtain ⟨form, hform, hlength⟩ := ih (c :: before)
    refine ⟨formOf before c (s ++ t) ++ form, ?_, ?_⟩
    · rw [List.cons_append, lowerAfter_cons, hform, List.append_assoc, List.reverse_cons, List.append_assoc,
        List.singleton_append]
    · rw [List.length_append, hlength, (hasForm_formOf before c (s ++ t)).length_eq, List.length_cons, List.count_cons]
      omega

/-- A text gets longer by the number of its dotted capital I's. -/
lemma length_lowerAfter (before t : Text) : (lowerAfter before t).length = t.length + t.count 'İ' := by
  obtain ⟨form, hform, hlength⟩ := exists_lowerAfter_append before t []
  have hnone : lowerAfter (t.reverse ++ before) [] = [] := rfl
  rw [List.append_nil, hnone, List.append_nil] at hform
  rw [hform, hlength]

/-- A cut behind the beginning of a form is a cut behind all of it, unless that is in the middle of a dotted I. -/
lemma HasForm.exists_of_append_eq {rest front back : Text} (h : HasForm c form) (heq : form ++ rest = front ++ back)
    (hfront : front ≠ []) (hback : back.head? ≠ some '\u0307') :
    ∃ more, front = form ++ more ∧ rest = more ++ back := by
  rcases List.append_eq_append_iff.mp heq with ⟨more, hmore, hrest⟩ | ⟨cut, hcut, hrest⟩
  · exact ⟨more, hmore, hrest⟩
  · -- the cut is in the form itself, so at its end or, in one of two characters, before the dot above
    obtain ⟨first, front, rfl⟩ := List.exists_cons_of_ne_nil hfront
    cases cut with
    | nil => exact ⟨[], by rw [List.append_nil, hcut, List.append_nil], by rw [List.nil_append]; exact hrest.symm⟩
    | cons m cut =>
      exfalso
      rw [List.cons_append] at hcut
      cases h with
      | dottedI =>
        cases front with
        | nil =>
          obtain ⟨rfl, -⟩ := List.cons.inj (List.cons.inj hcut).2
          exact hback (by rw [hrest]; rfl)
        | cons => simp at hcut
      | _ => simp at hcut

/-- Where the form of a text is cut, the text can be cut too, unless that is in the middle of a dotted I. -/
lemma exists_append_of_lowerAfter_eq {front back : Text} (h : lowerAfter before t = front ++ back)
    (hback : back.head? ≠ some '\u0307') :
    ∃ s u, t = s ++ u ∧ lowerAfter (s.reverse ++ before) u = back ∧ front.length = s.length + s.count 'İ' := by
  induction t generalizing before front with
  | nil =>
    obtain ⟨rfl, rfl⟩ := List.append_eq_nil_iff.mp h.symm
    exact ⟨[], [], rfl, rfl, rfl⟩
  | cons c after ih =>
    by_cases hfront : front = []
    · rw [hfront] at h ⊢
      exact ⟨[], c :: after, rfl, h, rfl⟩
    · have hform := hasForm_formOf before c after
      rw [lowerAfter_cons] at h
      obtain ⟨more, rfl, hrest⟩ := hform.exists_of_append_eq h hfront hback
      obtain ⟨s, u, rfl, hu, hlength⟩ := ih hrest
      refine ⟨c :: s, u, rfl, ?_, ?_⟩
      · rw [List.reverse_cons, List.append_assoc, List.singleton_append, hu]
      · rw [List.length_append, hlength, hform.length_eq, List.length_cons, List.count_cons]
        omega

/-! ## What stands before a text -/

variable {before' : Text}

lemma startsCased_cons (c : Char) (t : Text) :
    startsCased (c :: t) = if isCaseIgnorable c then startsCased t else inRanges c.toNat casedRanges := by
  unfold startsCased
  rw [List.dropWhile_cons]
  cases isCaseIgnorable c <;> rfl

/-- Of what stands before a text nothing matters but whether it ends with a letter. -/
lemma lowerAfter_congr (h : startsCased before = startsCased before') (t : Text) :
    lowerAfter before t = lowerAfter before' t := by
  induction t generalizing before before' with
  | nil => rfl
  | cons c after ih =>
    have hcons : startsCased (c :: before) = startsCased (c :: before') := by
      rw [startsCased_cons, startsCased_cons, h]
    have hform : formOf before c after = formOf before' c after := by
      unfold formOf endsWord
      rw [h]
    rw [lowerAfter_cons, lowerAfter_cons, ih hcons, hform]

/-- Whether the first letter of a text is a sigma that ends a word hangs on what stands before the text: it is a capital
one, with no letter behind it. -/
inductive HasLooseSigma : Text → Prop
  | sigma {after : Text} (h : startsCased after = false) : HasLooseSigma ('Σ' :: after)
  | passed {c : Char} {after : Text} (hc : isCaseIgnorable c = true) (h : HasLooseSigma after) :
      HasLooseSigma (c :: after)

/-- Where a sigma is loose there is a sigma. -/
lemma HasLooseSigma.mem (h : HasLooseSigma t) : 'Σ' ∈ t := by
  induction h with
  | sigma => exact List.mem_cons_self
  | passed _ _ ih => exact List.mem_cons_of_mem _ ih

/-- The sigma is not ignored when it is looked for what stands beside another. -/
lemma isCaseIgnorable_sigma : isCaseIgnorable 'Σ' = false := by decide +kernel

/-- What is ignored in front makes no sigma loose. -/
lemma hasLooseSigma_cons_iff_of_ignorable (hc : isCaseIgnorable c = true) :
    HasLooseSigma (c :: after) ↔ HasLooseSigma after := by
  constructor
  · intro h
    cases h with
    | sigma => exact absurd (hc.symm.trans isCaseIgnorable_sigma) (by decide)
    | passed _ h => exact h
  · exact .passed hc

/-- A character that is not ignored leaves only itself to be a loose sigma. -/
lemma hasLooseSigma_cons_iff_of_not_ignorable (hc : isCaseIgnorable c = false) :
    HasLooseSigma (c :: after) ↔ c = 'Σ' ∧ startsCased after = false := by
  constructor
  · intro h
    cases h with
    | sigma h => exact ⟨rfl, h⟩
    | passed hc' _ => exact absurd (hc'.symm.trans hc) (by decide)
  · rintro ⟨rfl, h⟩
    exact .sigma h

/-- The forms of a character behind a letter and behind none differ if it is a sigma that no letter follows. -/
lemma formOf_eq_iff (hbefore : startsCased before = true) (hbefore' : startsCased before' = false) :
    formOf before c after = formOf before' c after ↔ ¬ (c = 'Σ' ∧ startsCased after = false) := by
  unfold formOf endsWord
  rw [hbefore, hbefore']
  by_cases hsigma : c = 'Σ'
  · rw [if_pos hsigma, if_pos hsigma]
    cases startsCased after <;> simp [hsigma]
  · simp [hsigma]

/-- The forms of a text behind a letter and behind none differ if it has a loose sigma. -/
lemma lowerAfter_eq_iff (hbefore : startsCased before = true) (hbefore' : startsCased before' = false) (t : Text) :
    lowerAfter before t = lowerAfter before' t ↔ ¬ HasLooseSigma t := by
  induction t generalizing before before' with
  | nil => exact iff_of_true rfl fun h => nomatch h
  | cons c after ih =>
    have hlength : (formOf before c after).length = (formOf before' c after).length := by
      rw [(hasForm_formOf before c after).length_eq, (hasForm_formOf before' c after).length_eq]
    have hparts : lowerAfter before (c :: after) = lowerAfter before' (c :: after) ↔
        formOf before c after = formOf before' c after ∧
          lowerAfter (c :: before) after = lowerAfter (c :: before') after :=
      ⟨fun h => List.append_inj h hlength, fun ⟨hform, hrest⟩ => by
        rw [lowerAfter_cons, lowerAfter_cons, hform, hrest]⟩
    rw [hparts]
    cases hc : isCaseIgnorable c with
    | true =>
      -- the rest stands behind the same letter as the character
      have hsigma : ¬ (c = 'Σ' ∧ startsCased after = false) := by
        rintro ⟨rfl, -⟩
        exact absurd (hc.symm.trans isCaseIgnorable_sigma) (by decide)
      have hcased : startsCased (c :: before) = true := by rw [startsCased_cons, if_pos hc, hbefore]
      have hnone : startsCased (c :: before') = false := by rw [startsCased_cons, if_pos hc, hbefore']
      have hrest := ih hcased hnone
      rw [hasLooseSigma_cons_iff_of_ignorable hc, ← hrest, and_iff_right ((formOf_eq_iff hbefore hbefore').mpr hsigma)]
    | false =>
      -- what stands before the character is out of sight for the rest
      have hcons : startsCased (c :: before) = startsCased (c :: before') := by
        rw [startsCased_cons, startsCased_cons, hc]
        rfl
      rw [hasLooseSigma_cons_iff_of_not_ignorable hc, ← formOf_eq_iff hbefore hbefore',
        and_iff_left (lowerAfter_congr hcons after)]

/-- What stands before a text changes its form if there is a letter before it, and a loose sigma in it. -/
lemma lowerAfter_eq_lower_iff : lowerAfter before t = lower t ↔ ¬ (startsCased before = true ∧ HasLooseSigma t) := by
  have hnone : startsCased [] = false := rfl
  cases hbefore : startsCased before with
  | false => exact iff_of_true (lowerAfter_congr (hbefore.trans hnone.symm) t) fun h => nomatch h.1
  | true =>
    rw [lower, lowerAfter_eq_iff hbefore hnone t]
    exact not_congr ⟨fun h => ⟨rfl, h⟩, fun h => h.2⟩

/-- A loose sigma behind a letter becomes a final one. -/
lemma finalSigma_mem_lowerAfter (h : HasLooseSigma t) (hbefore : startsCased before = true) :
    'ς' ∈ lowerAfter before t := by
  induction h generalizing before with
  | @sigma after hafter =>
    have hform : formOf before 'Σ' after = ['ς'] := by
      unfold formOf endsWord
      rw [if_pos rfl, hbefore, hafter]
      rfl
    rw [lowerAfter_cons, hform]
    exact List.mem_cons_self
  | passed hc _ ih =>
    rw [lowerAfter_cons]
    exact List.mem_append_right _ (ih (by rw [startsCased_cons, if_pos hc, hbefore]))

/-- A dotted I leaves a dot above. -/
lemma dotAbove_mem_lowerAfter (h : 'İ' ∈ t) (before : Text) : '\u0307' ∈ lowerAfter before t := by
  induction t generalizing before with
  | nil => exact absurd h List.not_mem_nil
  | cons c after ih =>
    rw [lowerAfter_cons]
    rcases List.mem_cons.mp h with rfl | h
    · have hform : formOf before 'İ' after = ['i', '\u0307'] := rfl
      rw [hform]
      exact List.mem_append_left _ (by decide)
    · exact List.mem_append_right _ (ih h _)

/-! ## Blanks and dots -/

/-- Blanks are forms of blanks only. -/
lemma HasForm.isBlank (h : HasForm c form) (hd : d ∈ form) (hblank : isBlank d = true) : isBlank c = true := by
  have hreserved : inRanges d.toNat reservedRanges = true := by
    obtain ⟨range, hrange, hbetween⟩ := List.any_eq_true.mp hblank
    have hmem : range ∈ reservedRanges := by
      unfold reservedRanges
      simp only [List.mem_cons]
      exact .inr (.inr (.inr (.inr hrange)))
    exact List.any_eq_true.mpr ⟨range, hmem, hbetween⟩
  rwa [h.eq_of_reserved hd hreserved]

/-- The first character comes of a form of the first character. -/
lemma head?_lowerAfter (h : (lowerAfter before t).head? = some d) :
    ∃ c form, t.head? = some c ∧ HasForm c form ∧ d ∈ form := by
  cases t with
  | nil => exact nomatch h
  | cons c after =>
    have hform := hasForm_formOf before c after
    obtain ⟨first, rest, hfirst⟩ := List.exists_cons_of_ne_nil hform.ne_nil
    rw [lowerAfter_cons, hfirst, List.cons_append, List.head?_cons, Option.some.injEq] at h
    exact ⟨c, _, rfl, hform, by rw [hfirst, h]; exact List.mem_cons_self⟩

/-- The last character comes of a form of the last character. -/
lemma getLast?_lowerAfter (h : (lowerAfter before t).getLast? = some d) :
    ∃ c form, t.getLast? = some c ∧ HasForm c form ∧ d ∈ form := by
  rcases List.eq_nil_or_concat' t with rfl | ⟨s, c, rfl⟩
  · exact nomatch h
  · obtain ⟨front, hfront, -⟩ := exists_lowerAfter_append before s [c]
    have hform := hasForm_formOf (s.reverse ++ before) c []
    have hlast : lowerAfter (s.reverse ++ before) [c] = formOf (s.reverse ++ before) c [] := by
      rw [lowerAfter_cons]
      exact List.append_nil _
    rw [hfront, hlast, List.getLast?_append_of_ne_nil _ hform.ne_nil] at h
    exact ⟨c, _, by rw [List.getLast?_concat], hform, List.mem_of_getLast? h⟩

/-- The form of a text has blanks around it only if the text has. -/
lemma strip_lower_strip (t : Text) : strip (lower (strip t)) = lower (strip t) := by
  refine trim_eq_self (fun d hd => ?_) fun d hd => ?_
  · obtain ⟨c, form, hc, hform, hmem⟩ := head?_lowerAfter hd
    by_contra hblank
    have hnot : isBlank c = false := eq_false_of_head?_trim hc
    exact absurd (hform.isBlank hmem (eq_true_of_ne_false hblank)) (Bool.eq_false_iff.mp hnot)
  · obtain ⟨c, form, hc, hform, hmem⟩ := getLast?_lowerAfter hd
    by_contra hblank
    have hnot : isBlank c = false := eq_false_of_getLast?_trim hc
    exact absurd (hform.isBlank hmem (eq_true_of_ne_false hblank)) (Bool.eq_false_iff.mp hnot)

/-- Only the empty text is empty in lower case. -/
lemma lower_eq_nil_iff : lower t = [] ↔ t = [] := by
  rw [← List.length_eq_zero_iff, lower, length_lowerAfter, ← List.length_eq_zero_iff]
  constructor
  · intro h
    omega
  · intro h
    rw [List.length_eq_zero_iff.mp h]
    rfl

lemma isLower_dot : IsLower '.' := ⟨by decide, by decide, by decide +kernel⟩

/-- A dot before a text changes nothing else in its form. -/
lemma lower_dot_cons (t : Text) : lower ('.' :: t) = '.' :: lower t := by
  have hdot : startsCased ['.'] = startsCased [] := by decide +kernel
  rw [lower, lowerAfter_cons, (hasForm_formOf [] '.' t).eq_of_isLower isLower_dot, lowerAfter_congr hdot,
    List.singleton_append, lower]

/-- The form of a text begins with a dot only if the text does. -/
lemma head?_of_head?_lower (h : (lower t).head? = some '.') : t.head? = some '.' := by
  obtain ⟨c, form, hc, hform, hmem⟩ := head?_lowerAfter h
  rw [hc, hform.eq_of_reserved hmem (by decide)]

end Counterpart.Text
