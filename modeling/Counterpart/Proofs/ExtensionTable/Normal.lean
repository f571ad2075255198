import Counterpart.ExtensionTable
import Counterpart.Proofs.Text.LowerCase

/-!
# Extensions in normal form

A table holds the entries of its lists in one form: without blanks around them, with a leading dot, in lower case.

* `normalize_eq`: the form of an entry is the lower-case form of the entry as it is written, with its dot;
* `isNormal_normalize` and `IsNormal.normalize_eq`: it is a form that does not change any more;
* `normalSet_eq_nil_iff`: a list gives no extension exactly if all of its entries are blank;
* `isNormal_of_mem_ofLists`: the extensions of a table of lists are in normal form.
-/

namespace Counterpart.ExtensionTable

variable {e entry : Text} {extensions : List Text}

/-- An extension as tables hold it. -/
structure IsNormal (extension : Text) : Prop where
  dotted : extension.head? = some '.'
  lowered : Text.lower extension = extension
  stripped : Text.strip extension = extension

/-- A normal extension is not empty. -/
lemma IsNormal.ne_nil (h : IsNormal e) : e ≠ [] := by
  rintro rfl
  exact nomatch h.dotted

/-- A text with a leading dot: its own, or one that is put before it. -/
def dotted : Text → Text
  | '.' :: rest => '.' :: rest
  | t => '.' :: t

/-- A dot that is there is not put in front again. -/
lemma dotted_of_head? {t : Text} (h : t.head? = some '.') : dotted t = t := by
  cases t with
  | nil => exact nomatch h
  | cons c rest =>
    obtain rfl := Option.some.inj h
    rfl

lemma dotted_of_head?_ne {t : Text} (h : t.head? ≠ some '.') : dotted t = '.' :: t := by
  unfold dotted
  split
  · exact absurd rfl h
  · rfl

/-- In front there is a dot then. -/
lemma head?_dotted (t : Text) : (dotted t).head? = some '.' := by
  unfold dotted
  split <;> rfl

/-- The dot in front does not change the last character. -/
lemma getLast?_dotted {t : Text} (h : t ≠ []) : (dotted t).getLast? = t.getLast? := by
  by_cases hdot : t.head? = some '.'
  · rw [dotted_of_head? hdot]
  · rw [dotted_of_head?_ne hdot, List.getLast?_cons_of_ne_nil h]

/-- A dot leaves no blanks around a text that has none. -/
lemma strip_dotted_strip (h : Text.strip entry ≠ []) :
    Text.strip (dotted (Text.strip entry)) = dotted (Text.strip entry) := by
  refine Text.trim_eq_self (fun c hc => ?_) fun c hc => ?_
  · obtain rfl := Option.some.inj ((head?_dotted (Text.strip entry)).symm.trans hc)
    decide
  · rw [getLast?_dotted h] at hc
    exact Text.eq_false_of_getLast?_trim hc

/-! ## Single entries -/

/-- An entry is stripped, put in lower case and given a dot. -/
lemma normalize_eq_dotted (h : Text.lower (Text.strip entry) ≠ []) :
    normalize entry = dotted (Text.lower (Text.strip entry)) := by
  obtain ⟨c, rest, hform⟩ := List.exists_cons_of_ne_nil h
  unfold normalize
  rw [hform]
  by_cases hdot : c = '.'
  · rw [hdot]
    rfl
  · rw [dotted_of_head?_ne (by simpa using hdot)]
    split
    · next hnil => exact absurd hnil (List.cons_ne_nil c rest)
    · next hcons => exact absurd (List.cons.inj hcons).1 hdot
    · rfl

/-- An entry is put into normal form by the lower-case form of what it writes, with its dot. -/
lemma normalize_eq (h : Text.strip entry ≠ []) : normalize entry = Text.lower (dotted (Text.strip entry)) := by
  have hform : Text.lower (Text.strip entry) ≠ [] := fun hnil => h (Text.lower_eq_nil_iff.mp hnil)
  rw [normalize_eq_dotted hform]
  by_cases hdot : (Text.strip entry).head? = some '.'
  · rw [dotted_of_head? hdot]
    obtain ⟨rest, hrest⟩ := List.head?_eq_some_iff.mp hdot
    exact dotted_of_head? (by rw [hrest, Text.lower_dot_cons]; rfl)
  · rw [dotted_of_head?_ne hdot, Text.lower_dot_cons,
      dotted_of_head?_ne fun hhead => hdot (Text.head?_of_head?_lower hhead)]

/-- Only blank entries become empty. -/
lemma normalize_eq_nil_iff : normalize entry = [] ↔ Text.strip entry = [] := by
  constructor
  · intro h
    by_contra hblank
    rw [normalize_eq hblank, Text.lower_eq_nil_iff] at h
    have hdot := head?_dotted (Text.strip entry)
    rw [h] at hdot
    exact nomatch hdot
  · intro h
    unfold normalize
    rw [h]
    rfl

/-- An entry that is not blank becomes normal. -/
lemma isNormal_normalize (h : Text.strip entry ≠ []) : IsNormal (normalize entry) := by
  obtain ⟨rest, hrest⟩ := List.head?_eq_some_iff.mp (head?_dotted (Text.strip entry))
  have hlower : normalize entry = Text.lower (dotted (Text.strip entry)) := normalize_eq h
  refine ⟨?_, ?_, ?_⟩
  · rw [hlower, hrest, Text.lower_dot_cons]
    rfl
  · rw [hlower, Text.lower_lower]
  · rw [hlower, ← strip_dotted_strip h, Text.strip_lower_strip]

/-- What is in normal form stays as it is. -/
lemma IsNormal.normalize_eq (h : IsNormal e) : normalize e = e := by
  rw [ExtensionTable.normalize_eq (by rw [h.stripped]; exact h.ne_nil), h.stripped, dotted_of_head? h.dotted, h.lowered]

/-! ## Sets of extensions -/

/-- A set is made of its entries that are not blank. -/
lemma mem_normalSet_iff :
    e ∈ normalSet extensions ↔ ∃ entry ∈ extensions, Text.strip entry ≠ [] ∧ normalize entry = e := by
  unfold normalSet
  rw [Text.mem_sortedSet, List.mem_filter, List.mem_map, decide_eq_true_eq]
  constructor
  · rintro ⟨⟨entry, hentry, rfl⟩, hne⟩
    exact ⟨entry, hentry, fun hblank => hne (normalize_eq_nil_iff.mpr hblank), rfl⟩
  · rintro ⟨entry, hentry, hblank, rfl⟩
    exact ⟨⟨entry, hentry, rfl⟩, fun hnil => hblank (normalize_eq_nil_iff.mp hnil)⟩

/-- All extensions of a set are normal. -/
lemma isNormal_of_mem_normalSet (h : e ∈ normalSet extensions) : IsNormal e := by
  obtain ⟨entry, -, hblank, rfl⟩ := mem_normalSet_iff.mp h
  exact isNormal_normalize hblank

/-- A list gives no extension exactly if there is nothing but blanks in it. -/
lemma normalSet_eq_nil_iff : normalSet extensions = [] ↔ ∀ entry ∈ extensions, Text.strip entry = [] := by
  rw [List.eq_nil_iff_forall_not_mem]
  constructor
  · intro h entry hentry
    by_contra hblank
    exact h _ (mem_normalSet_iff.mpr ⟨entry, hentry, hblank, rfl⟩)
  · intro h e he
    obtain ⟨entry, hentry, hblank, -⟩ := mem_normalSet_iff.mp he
    exact hblank (h entry hentry)

/-! ## Tables -/

/-- The default extensions are normal. -/
lemma isNormal_of_mem_defaults (h : e ∈ defaultHeaders ++ defaultSources) : IsNormal e := by
  have hall : ∀ e ∈ defaultHeaders ++ defaultSources,
      e.head? = some '.' ∧ Text.lower e = e ∧ Text.strip e = e := by decide +kernel
  obtain ⟨hdotted, hlowered, hstripped⟩ := hall e h
  exact ⟨hdotted, hlowered, hstripped⟩

/-- The extensions of a table are normal, be they given or default. -/
lemma isNormal_of_mem_getD {lists : Option (List Text)} {default : List Text} (hdefault : ∀ e ∈ default, IsNormal e)
    (h : e ∈ (lists.map normalSet).getD default) : IsNormal e := by
  cases lists with
  | none => exact hdefault e h
  | some extensions => exact isNormal_of_mem_normalSet h

/-- The extensions of a table of lists are in normal form. -/
lemma isNormal_of_mem_ofLists {headers sources suffixes : Option (List Text)}
    (h : e ∈ (ofLists headers sources suffixes).headers ++ (ofLists headers sources suffixes).sources) :
    IsNormal e := by
  rcases List.mem_append.mp h with h | h
  · exact isNormal_of_mem_getD (fun e he => isNormal_of_mem_defaults (List.mem_append_left _ he)) h
  · exact isNormal_of_mem_getD (fun e he => isNormal_of_mem_defaults (List.mem_append_right _ he)) h

end Counterpart.ExtensionTable
