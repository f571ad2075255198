import Counterpart.Proofs.ExtensionTable.Cut

/-!
# Entries in names

An entry of a list stands for the names that end with it, whatever their case.  A name is put into lower case as a
whole, though, and an entry alone, so the two can come apart where the form of a sigma hangs on what stands before it.

* `fits_lower_iff`: when the lower-case form of a text fits a name that ends with the text;
* `entry_isRecognised`: when a name that ends with an entry is recognised by it.
-/

namespace Counterpart.ExtensionTable

variable {table : ExtensionTable} {name stem extension entry : Text}

/-- A name is that of a header or a source, by an extension at least as long as a given one. -/
def Recognises (table : ExtensionTable) (name extension : Text) : Prop :=
  ∃ role e, role ≠ .other ∧ table.roleExtension name = (role, some e) ∧ extension.length ≤ e.length

/-- A name is recognised by the longest extension that fits, so by any that does. -/
lemma recognises_iff : table.Recognises name extension ↔
    ∃ e ∈ table.headers ++ table.sources, Fits (Text.lower name) e ∧ extension.length ≤ e.length := by
  constructor
  · rintro ⟨role, e, -, hrole, hlength⟩
    obtain ⟨hmem, hfits⟩ := mem_and_fits_of_roleExtension hrole
    exact ⟨e, hmem, hfits, hlength⟩
  · rintro ⟨e, hmem, hfits, hlength⟩
    have hdecides := decides_roleExtension table name
    generalize hanswer : table.roleExtension name = answer at hdecides
    cases hdecides with
    | header hlongest => exact ⟨_, _, by decide, hanswer, hlength.trans (hlongest.le hmem hfits)⟩
    | source hlongest => exact ⟨_, _, by decide, hanswer, hlength.trans (hlongest.le hmem hfits)⟩
    | other hnone => exact absurd hfits (hnone e hmem)

/-- The lower-case form of a text fits a name that ends with the text, unless that of a sigma hangs on what stands
before it. -/
lemma fits_lower_iff (hstem : stem ≠ []) (t : Text) :
    Fits (Text.lower (stem ++ t)) (Text.lower t) ↔ ¬ (Text.startsCased stem.reverse = true ∧ Text.HasLooseSigma t) := by
  obtain ⟨form, hform, hlength⟩ := Text.exists_lowerAfter_append [] stem t
  have hwhole : Text.lower (stem ++ t) = form ++ Text.lowerAfter stem.reverse t := by
    rw [Text.lower, hform, List.append_nil]
  have hne : form ≠ [] := by
    have hpositive := List.length_pos_iff.mpr hstem
    exact List.length_pos_iff.mp (by omega)
  rw [← Text.lowerAfter_eq_lower_iff, hwhole]
  constructor
  · -- the two forms of the text are equally long, so the one ends the name only if it is the other
    intro hfits
    have hlengths : (Text.lowerAfter stem.reverse t).length = (Text.lower t).length := by
      rw [Text.lower, Text.length_lowerAfter, Text.length_lowerAfter]
    have hsuffix := List.suffix_of_suffix_length_le (List.suffix_append form _) hfits.suffix hlengths.le
    exact hsuffix.eq_of_length hlengths
  · intro hsame
    rw [← hsame]
    exact fits_append_iff.mpr hne

lemma sigma_mem_of_hasLooseSigma (h : Text.HasLooseSigma (dotted (Text.strip entry))) : 'Σ' ∈ entry := by
  have hdotted : 'Σ' ∈ Text.strip entry := by
    have hmem := h.mem
    by_cases hdot : (Text.strip entry).head? = some '.'
    · rwa [dotted_of_head? hdot] at hmem
    · rw [dotted_of_head?_ne hdot] at hmem
      exact (List.mem_cons.mp hmem).resolve_left (by decide)
  obtain ⟨before, after, hentry, -⟩ := Text.exists_trim Text.isBlank entry
  rw [hentry]
  exact List.mem_append_right before (List.mem_append_left after hdotted)

/-- In the table of a list a name that ends with an entry as it is written is recognised, by an extension at least as
long as the entry in normal form.  That fails only if there is a sigma in the entry whose form hangs on what stands
before it, and no other extension makes up for it. -/
theorem entry_isRecognised {extensions : List Text} (hentry : entry ∈ extensions) (hblank : Text.strip entry ≠ [])
    (hstem : stem ≠ []) {others suffixes : Option (List Text)}
    (htable : table = ofLists (some extensions) others suffixes ∨ table = ofLists others (some extensions) suffixes) :
    (Fits (Text.lower (stem ++ dotted (Text.strip entry))) (normalize entry) ↔
      ¬ (Text.startsCased stem.reverse = true ∧ Text.HasLooseSigma (dotted (Text.strip entry)))) ∧
    (table.Recognises (stem ++ dotted (Text.strip entry)) (normalize entry) ↔
      ¬ (Text.startsCased stem.reverse = true ∧ Text.HasLooseSigma (dotted (Text.strip entry))) ∨
      ∃ other ∈ table.headers ++ table.sources, other ≠ normalize entry ∧
        Fits (Text.lower (stem ++ dotted (Text.strip entry))) other ∧ (normalize entry).length ≤ other.length) ∧
    ('Σ' ∉ entry → table.Recognises (stem ++ dotted (Text.strip entry)) (normalize entry)) := by
  have hmem : normalize entry ∈ table.headers ++ table.sources := by
    have hset : normalize entry ∈ normalSet extensions := mem_normalSet_iff.mpr ⟨entry, hentry, hblank, rfl⟩
    rcases htable with rfl | rfl
    · exact List.mem_append_left _ hset
    · exact List.mem_append_right _ hset
  have hfits := fits_lower_iff hstem (dotted (Text.strip entry))
  rw [← normalize_eq hblank] at hfits
  refine ⟨hfits, ⟨fun h => ?_, fun h => ?_⟩, fun hnone => ?_⟩
  · obtain ⟨other, hother, hfit, hlength⟩ := recognises_iff.mp h
    by_cases heq : other = normalize entry
    · exact .inl (hfits.mp (heq ▸ hfit))
    · exact .inr ⟨other, hother, heq, hfit, hlength⟩
  · rcases h with hloose | ⟨other, hother, -, hfit, hlength⟩
    · exact recognises_iff.mpr ⟨_, hmem, hfits.mpr hloose, le_rfl⟩
    · exact recognises_iff.mpr ⟨other, hother, hfit, hlength⟩
  · have hloose := fun h : Text.startsCased stem.reverse = true ∧ Text.HasLooseSigma (dotted (Text.strip entry)) =>
      hnone (sigma_mem_of_hasLooseSigma h.2)
    exact recognises_iff.mpr ⟨_, hmem, hfits.mpr hloose, le_rfl⟩

/-- Entries for headers, one of them a sigma. -/
def sigmaEntries : List Text := [" PB.h ".toList, ".Σ".toList]

/-- The table of the entries. -/
def sigmaTable : ExtensionTable := ofLists (some sigmaEntries) none none

/-- A name that ends with an ordinary entry is recognised.  One that ends with a sigma is not, behind a letter. -/
theorem entry_isRecognised_sigma :
    (" PB.h ".toList ∈ sigmaEntries ∧ sigmaTable.Recognises "a.PB.h".toList ".pb.h".toList) ∧
    (".Σ".toList ∈ sigmaEntries ∧ ¬ sigmaTable.Recognises "a.Σ".toList ".σ".toList) := by
  have htable : sigmaTable = ofLists (some sigmaEntries) none none ∨
      sigmaTable = ofLists none (some sigmaEntries) none := .inl rfl
  have hpb : " PB.h ".toList ∈ sigmaEntries := by decide
  have hsigma : ".Σ".toList ∈ sigmaEntries := by decide
  have hstem : "a".toList ≠ [] := by decide
  refine ⟨⟨hpb, ?_⟩, hsigma, ?_⟩
  · obtain ⟨-, -, hplain⟩ := entry_isRecognised hpb (by decide +kernel) hstem htable
    have hname : "a".toList ++ dotted (Text.strip " PB.h ".toList) = "a.PB.h".toList := by decide +kernel
    have hform : normalize " PB.h ".toList = ".pb.h".toList := by decide +kernel
    rw [← hname, ← hform]
    exact hplain (by decide)
  · obtain ⟨-, hiff, -⟩ := entry_isRecognised hsigma (by decide +kernel) hstem htable
    have hname : "a".toList ++ dotted (Text.strip ".Σ".toList) = "a.Σ".toList := by decide +kernel
    have hform : normalize ".Σ".toList = ".σ".toList := by decide +kernel
    have hcased : Text.startsCased "a".toList.reverse = true := by decide +kernel
    have hloose : Text.HasLooseSigma (dotted (Text.strip ".Σ".toList)) := .passed (by decide +kernel) (.sigma rfl)
    have hothers : ∀ other ∈ sigmaTable.headers ++ sigmaTable.sources,
        endsWithin (Text.lower "a.Σ".toList) other = false := by decide +kernel
    rw [hname, hform] at hiff
    intro h
    rcases hiff.mp h with hnot | ⟨other, hother, -, hfits, -⟩
    · exact hnot ⟨hcased, hloose⟩
    · exact absurd (endsWithin_iff.mpr hfits) (Bool.eq_false_iff.mp (hothers other hother))

end Counterpart.ExtensionTable
