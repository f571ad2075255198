import Counterpart.Proofs.ExtensionTable.Basename
import Counterpart.Proofs.ExtensionTable.Normal

/-!
# The cut before an extension

The extension of a name is looked for in the lower-case form of the name, and then cut off the name itself, by its
length.  The two have their ends in the same place unless there is a dotted I in the extension as it is written, since
that alone has a form of another length.

* `IsDivided`: a name is a stem and the extension as it is written;
* `exists_isDivided`: a name that has an extension can be divided so;
* `IsDivided.cutEnd_eq_iff`: when the cut is made where the extension begins;
* `basename_cutsExtension`: what is left as the base name.
-/

namespace Counterpart.ExtensionTable

/-- A name is a stem and a tail, and the lower-case form of the tail where it stands is an extension. -/
structure IsDivided (name stem tail extension : Text) : Prop where
  name_eq : name = stem ++ tail
  stem_ne_nil : stem ≠ []
  form : Text.lowerAfter stem.reverse tail = extension

variable {name stem tail extension : Text}

/-- A name that has an extension with a leading dot can be divided. -/
lemma exists_isDivided (hfits : Fits (Text.lower name) extension) (hdot : extension.head? = some '.') :
    ∃ stem tail, IsDivided name stem tail extension := by
  obtain ⟨front, hfront⟩ := hfits.suffix
  have hshorter := hfits.shorter
  have hback : extension.head? ≠ some '\u0307' := by
    rw [hdot]
    decide
  obtain ⟨stem, tail, hname, hform, hlength⟩ := Text.exists_append_of_lowerAfter_eq hfront.symm hback
  rw [← hfront, List.length_append] at hshorter
  refine ⟨stem, tail, hname, ?_, by rw [← hform, List.append_nil]⟩
  rintro rfl
  rw [List.length_nil, List.count_nil] at hlength
  omega

lemma IsDivided.length_extension (h : IsDivided name stem tail extension) :
    extension.length = tail.length + tail.count 'İ' := by
  rw [← h.form, Text.length_lowerAfter]

/-- The tail has the extension as its own lower-case form, unless that of a sigma hangs on the stem. -/
lemma IsDivided.lower_tail_eq_iff (h : IsDivided name stem tail extension) :
    Text.lower tail = extension ↔ ¬ (Text.startsCased stem.reverse = true ∧ Text.HasLooseSigma tail) := by
  rw [← Text.lowerAfter_eq_lower_iff, h.form, eq_comm]

/-- The length of the cut name. -/
lemma IsDivided.length_cutEnd (h : IsDivided name stem tail extension) :
    (Text.cutEnd name extension.length).length =
      if tail.count 'İ' ≤ stem.length then stem.length - tail.count 'İ'
      else 2 * stem.length + tail.length - tail.count 'İ' := by
  have hextension := h.length_extension
  have hcount : tail.count 'İ' ≤ tail.length := List.count_le_length
  have hname : name.length = stem.length + tail.length := by rw [h.name_eq, List.length_append]
  unfold Text.cutEnd
  split
  · next hle =>
    rw [if_pos (by omega), List.length_take]
    omega
  · -- a cut longer than the name is taken from the end once more
    next hgt =>
    rw [if_neg (by omega), List.length_take]
    omega

/-- The cut is made where the extension begins exactly if there is no dotted I in the extension as it is written. -/
lemma IsDivided.cutEnd_eq_iff (h : IsDivided name stem tail extension) :
    Text.cutEnd name extension.length = stem ↔ 'İ' ∉ tail := by
  have hcount : tail.count 'İ' ≤ tail.length := List.count_le_length
  constructor
  · intro hcut hmem
    have hpositive := List.count_pos_iff.mpr hmem
    have hstem := List.length_pos_iff.mpr h.stem_ne_nil
    have hlength := h.length_cutEnd
    rw [hcut] at hlength
    split at hlength <;> omega
  · intro hnone
    have hextension := h.length_extension
    rw [List.count_eq_zero.mpr hnone, Nat.add_zero] at hextension
    rw [h.name_eq, hextension, Text.cutEnd_append]

/-- The cut leaves nothing if the extension as it is written holds a dotted I for each character of the stem. -/
lemma IsDivided.cutEnd_eq_nil_iff (h : IsDivided name stem tail extension) :
    Text.cutEnd name extension.length = [] ↔ tail.count 'İ' = stem.length := by
  have hcount : tail.count 'İ' ≤ tail.length := List.count_le_length
  have hstem := List.length_pos_iff.mpr h.stem_ne_nil
  rw [← List.length_eq_zero_iff, h.length_cutEnd]
  split <;> omega

lemma cutEnd_isPrefix (name : Text) (n : Nat) : Text.cutEnd name n <+: name := by
  unfold Text.cutEnd
  split <;> exact List.take_prefix _ _

/-! ## Base names -/

/-- The base name of a name with an extension is what the cut name leaves. -/
lemma leaves_basename {table : ExtensionTable} {path : Text} {role : Role}
    (h : table.roleExtension (Text.afterLast '/' path) = (role, some extension)) :
    Leaves table.suffixes (Text.cutEnd (Text.afterLast '/' path) extension.length) (table.basename path) := by
  unfold basename basenameOfName
  rw [h]
  exact leaves_withoutSuffix _ _

/-- The extension of a name is one of the table, and fits. -/
lemma mem_and_fits_of_roleExtension {table : ExtensionTable} {role : Role}
    (h : table.roleExtension name = (role, some extension)) :
    extension ∈ table.headers ++ table.sources ∧ Fits (Text.lower name) extension := by
  have hdecides := decides_roleExtension table name
  rw [h] at hdecides
  cases hdecides with
  | header hlongest => exact ⟨hlongest.mem, hlongest.fits⟩
  | source hlongest => exact ⟨hlongest.mem, hlongest.fits⟩

/-- In a table of lists the name of a header or a source is divided into a stem and the extension as it is written.  If
there is no dotted I in that, the base name is what the stem leaves; otherwise the name is cut elsewhere, and there may
be nothing left.  The extension as it is written is the same as the one in the table but for case, unless the form of a
sigma hangs on the stem.  None of this can happen with an extension that has neither of the two forms in it. -/
theorem basename_cutsExtension {headers sources suffixes : Option (List Text)} {path : Text} {role : Role}
    (h : (ofLists headers sources suffixes).roleExtension (Text.afterLast '/' path) = (role, some extension)) :
    ∃ stem tail, IsDivided (Text.afterLast '/' path) stem tail extension ∧
      ('İ' ∉ tail →
        Leaves (ofLists headers sources suffixes).suffixes stem ((ofLists headers sources suffixes).basename path) ∧
        (ofLists headers sources suffixes).basename path ≠ []) ∧
      ('İ' ∈ tail →
        Leaves (ofLists headers sources suffixes).suffixes (Text.cutEnd (Text.afterLast '/' path) extension.length)
          ((ofLists headers sources suffixes).basename path) ∧
        Text.cutEnd (Text.afterLast '/' path) extension.length ≠ stem ∧
        ((ofLists headers sources suffixes).basename path = [] ↔ tail.count 'İ' = stem.length)) ∧
      (ofLists headers sources suffixes).basename path <+: Text.afterLast '/' path ∧
      (Text.lower tail = extension ↔ ¬ (Text.startsCased stem.reverse = true ∧ Text.HasLooseSigma tail)) ∧
      ('\u0307' ∉ extension → 'İ' ∉ tail) ∧ ('ς' ∉ extension → Text.lower tail = extension) := by
  obtain ⟨hmem, hfits⟩ := mem_and_fits_of_roleExtension h
  obtain ⟨stem, tail, hdivided⟩ := exists_isDivided hfits (isNormal_of_mem_ofLists hmem).dotted
  have hleaves := leaves_basename h
  refine ⟨stem, tail, hdivided, ?_, ?_, ?_, hdivided.lower_tail_eq_iff, ?_, ?_⟩
  · intro hnone
    rw [hdivided.cutEnd_eq_iff.mpr hnone] at hleaves
    exact ⟨hleaves, fun hnil => hdivided.stem_ne_nil (hleaves.eq_nil_iff.mp hnil)⟩
  · intro hdotted
    exact ⟨hleaves, fun hcut => hdivided.cutEnd_eq_iff.mp hcut hdotted,
      hleaves.eq_nil_iff.trans hdivided.cutEnd_eq_nil_iff⟩
  · exact hleaves.isPrefix.trans (cutEnd_isPrefix _ _)
  · intro hnone hdotted
    exact hnone (hdivided.form ▸ Text.dotAbove_mem_lowerAfter hdotted stem.reverse)
  · intro hnone
    refine hdivided.lower_tail_eq_iff.mpr fun ⟨hcased, hsigma⟩ => hnone ?_
    exact hdivided.form ▸ Text.finalSigma_mem_lowerAfter hsigma hcased

/-- Two kinds of headers, one of them with a dotted I. -/
def dottedITable : ExtensionTable := ofLists (some [".İ".toList, " PB.h".toList]) none none

/-- An ordinary extension is cut off, and then a suffix; one with a dotted I takes the whole name with it. -/
theorem basename_cutsExtension_dottedI :
    (dottedITable.roleExtension (Text.afterLast '/' "p/Vec-inl.Pb.H".toList) = (.header, some ".pb.h".toList) ∧
      dottedITable.basename "p/Vec-inl.Pb.H".toList = "Vec".toList ∧
      ∃ stem tail, IsDivided "Vec-inl.Pb.H".toList stem tail ".pb.h".toList ∧ Text.lower tail = ".pb.h".toList ∧
        Leaves dottedITable.suffixes stem "Vec".toList) ∧
    (dottedITable.roleExtension (Text.afterLast '/' "p/a.İ".toList) = (.header, some ".i\u0307".toList) ∧
      dottedITable.basename "p/a.İ".toList = [] ∧
      ∃ stem tail, IsDivided "a.İ".toList stem tail ".i\u0307".toList ∧ 'İ' ∈ tail ∧
        Text.cutEnd "a.İ".toList ".i\u0307".toList.length ≠ stem) := by
  have hpb : dottedITable.roleExtension (Text.afterLast '/' "p/Vec-inl.Pb.H".toList)
      = (.header, some ".pb.h".toList) := by decide +kernel
  have hpbName : dottedITable.basename "p/Vec-inl.Pb.H".toList = "Vec".toList := by decide +kernel
  have hdotted : dottedITable.roleExtension (Text.afterLast '/' "p/a.İ".toList)
      = (.header, some ".i\u0307".toList) := by decide +kernel
  have hdottedName : dottedITable.basename "p/a.İ".toList = [] := by decide +kernel
  refine ⟨⟨hpb, hpbName, ?_⟩, hdotted, hdottedName, ?_⟩
  · obtain ⟨stem, tail, hdivided, hexact, -, -, -, hnone, hlower⟩ := basename_cutsExtension hpb
    refine ⟨stem, tail, hdivided, hlower (by decide), ?_⟩
    rw [← hpbName]
    exact (hexact (hnone (by decide))).1
  · obtain ⟨stem, tail, hdivided, hexact, helsewhere, -⟩ := basename_cutsExtension hdotted
    have hmem : 'İ' ∈ tail := by
      by_contra hnone
      exact (hexact hnone).2 hdottedName
    exact ⟨stem, tail, hdivided, hmem, (helsewhere hmem).2.1⟩

end Counterpart.ExtensionTable
