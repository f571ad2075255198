import Counterpart.Proofs.ExtensionTable.Longest
import Counterpart.Proofs.ExtensionTable.Normal
import Counterpart.Proofs.Settings.Values

/-!
# Configured tables

A list of extensions that holds nothing is not heeded, so that there are always extensions to tell files by.  One that
holds nothing but blanks is heeded all the same, and leaves none.

* `IsConfigured`: what the extensions are that a setting leaves;
* `tableOf_isConfigured`: those of headers and of sources are such, and where there are none, no file is told.
-/

namespace Counterpart.Settings

open ExtensionTable (IsNormal normalize)

/-- A value is a list of texts, all of them blank, and there is at least one. -/
inductive IsBlankList : Option Json → Prop
  | texts {ts : List Text} (hne : ts ≠ []) (h : ∀ t ∈ ts, Text.strip t = []) :
      IsBlankList (some (.array (ts.map .string)))

variable {value : Option Json} {default extensions : List Text}

lemma MeansExtensions.unique {v : Json} {extensions extensions' : List Text} (h : MeansExtensions v extensions)
    (h' : MeansExtensions v extensions') : extensions = extensions' := by
  have hread {extensions : List Text} (h : MeansExtensions v extensions) :
      (texts? v).map ExtensionTable.normalSet = some extensions := by
    cases h with
    | texts => rw [texts?_eq_some_iff.mpr rfl, Option.map_some]
  exact Option.some.inj ((hread h).symm.trans (hread h'))

/-- A setting leaves no extensions exactly if its value is a list of blanks. -/
lemma eq_nil_iff_isBlankList (h : Heeds MeansExtensions default value extensions) (hdefault : default ≠ []) :
    extensions = [] ↔ IsBlankList value := by
  constructor
  · intro hnil
    cases h with
    | value h =>
      obtain ⟨hne⟩ := h
      exact .texts hne (ExtensionTable.normalSet_eq_nil_iff.mp hnil)
    | meaningless => exact absurd hnil hdefault
    | missing => exact absurd hnil hdefault
  · rintro ⟨hne, hblank⟩
    have hmeans := MeansExtensions.texts hne
    rw [h.eq_of_means hmeans fun hother => hother.unique hmeans]
    exact ExtensionTable.normalSet_eq_nil_iff.mpr hblank

/-- The extensions that a setting leaves: those that its value means, or the default, all in normal form; and none
exactly if the value is a list of blanks. -/
structure IsConfigured (default : List Text) (value : Option Json) (extensions : List Text) : Prop where
  heeds : Heeds MeansExtensions default value extensions
  normal : ∀ e ∈ extensions, IsNormal e ∧ normalize e = e ∧ Text.strip e ≠ []
  eq_nil_iff : extensions = [] ↔ IsBlankList value

lemma Heeds.isConfigured (h : Heeds MeansExtensions default value extensions) (hne : default ≠ [])
    (hdefault : ∀ e ∈ default, IsNormal e) : IsConfigured default value extensions where
  heeds := h
  normal := by
    have hnormal : ∀ e ∈ extensions, IsNormal e := by
      cases h with
      | value h =>
        cases h with
        | texts => exact fun _ => ExtensionTable.isNormal_of_mem_normalSet
      | meaningless => exact hdefault
      | missing => exact hdefault
    intro e he
    have hform := hnormal e he
    exact ⟨hform, hform.normalize_eq, by rw [hform.stripped]; exact hform.ne_nil⟩
  eq_nil_iff := eq_nil_iff_isBlankList h hne

/-- A table without extensions for headers tells no header, and one without extensions for sources no source. -/
lemma ne_nil_of_role (table : ExtensionTable) (path : Text) :
    (table.role path = .header → table.headers ≠ []) ∧ (table.role path = .source → table.sources ≠ []) := by
  have hdecides := ExtensionTable.decides_roleExtension table (Text.afterLast '/' path)
  unfold ExtensionTable.role
  generalize table.roleExtension (Text.afterLast '/' path) = answer at hdecides
  cases hdecides with
  | header _ hmem => exact ⟨fun _ => List.ne_nil_of_mem hmem, fun h => nomatch h⟩
  | source hlongest hnot =>
    exact ⟨fun h => (nomatch h), fun _ => List.ne_nil_of_mem ((List.mem_append.mp hlongest.mem).resolve_left hnot)⟩
  | other => exact ⟨fun h => (nomatch h), fun h => nomatch h⟩

/-- The extensions of a configured table are in normal form, those of each kind as they are configured, or by default.
There are none of a kind exactly if a list of blanks is configured for it, and then no file is of that kind. -/
theorem tableOf_isConfigured (config : Json) :
    IsConfigured ExtensionTable.defaultHeaders (config.field? "header_extensions".toList) (tableOf config).headers ∧
    IsConfigured ExtensionTable.defaultSources (config.field? "source_extensions".toList) (tableOf config).sources ∧
    ((tableOf config).headers = [] → ∀ path, (tableOf config).role path ≠ .header) ∧
    ((tableOf config).sources = [] → ∀ path, (tableOf config).role path ≠ .source) := by
  have hnormal := fun e (he : e ∈ ExtensionTable.defaultHeaders ++ ExtensionTable.defaultSources) =>
    ExtensionTable.isNormal_of_mem_defaults he
  refine ⟨?_, ?_, ?_, ?_⟩
  · rw [tableOf_eq]
    exact (heeds_extensions _ config "header_extensions").isConfigured (by decide)
      fun e he => hnormal e (List.mem_append_left _ he)
  · rw [tableOf_eq]
    exact (heeds_extensions _ config "source_extensions").isConfigured (by decide)
      fun e he => hnormal e (List.mem_append_right _ he)
  · exact fun hnil path hrole => (ne_nil_of_role _ path).1 hrole hnil
  · exact fun hnil path hrole => (ne_nil_of_role _ path).2 hrole hnil

/-- Settings with a blank for the extensions of headers, and a list that is not heeded for those of sources. -/
def blankHeaders : Json :=
  .object [("header_extensions".toList, .array [.string [' ', '\u3000']]), ("source_extensions".toList, .array [])]

/-- No file is a header then, and sources keep their extensions. -/
theorem tableOf_isConfigured_blankHeaders :
    (tableOf blankHeaders).headers = [] ∧ (∀ path, (tableOf blankHeaders).role path ≠ .header) ∧
      (tableOf blankHeaders).sources = ExtensionTable.defaultSources := by
  obtain ⟨hheaders, hsources, hnone, -⟩ := tableOf_isConfigured blankHeaders
  have hblank : IsBlankList (blankHeaders.field? "header_extensions".toList) :=
    .texts (List.cons_ne_nil [' ', '\u3000'] []) (by decide)
  have hnil := hheaders.eq_nil_iff.mpr hblank
  have hempty : Heeds MeansExtensions ExtensionTable.defaultSources (some (.array [])) (tableOf blankHeaders).sources :=
    hsources.heeds
  refine ⟨hnil, hnone hnil, hempty.eq_default fun extensions h => ?_⟩
  generalize hv : Json.array [] = v at h
  cases h with
  | texts hne => exact hne (List.map_eq_nil_iff.mp (Json.array.inj hv).symm)

end Counterpart.Settings
