import Counterpart.ExtensionTable
import Mathlib.Data.List.Infix
import Mathlib.Tactic.Lemma

/-!
# The longest extension

Which of the known extensions gives a file its role.

* `longest?_cases`: the extension that is found is the one that is longer than all others that fit, and none is found
  only if none fits;
* `roleExtension_isLongest`: the role is that of the longest extension of both kinds together, and the order in which
  they are tried does not matter.
-/

namespace Counterpart.ExtensionTable

/-- An extension ends a text and leaves something before it. -/
structure Fits (lowered extension : Text) : Prop where
  suffix : extension <:+ lowered
  shorter : extension.length < lowered.length

/-- Of some extensions, `e` fits a text and is longer than all others that do. -/
structure IsLongest (lowered : Text) (extensions : List Text) (e : Text) : Prop where
  mem : e ∈ extensions
  fits : Fits lowered e
  longer : ∀ other ∈ extensions, Fits lowered other → other ≠ e → other.length < e.length

variable {lowered name e : Text} {extensions : List Text}

lemma endsWithin_iff : endsWithin lowered e = true ↔ Fits lowered e := by
  unfold endsWithin
  rw [Bool.and_eq_true, decide_eq_true_eq, List.isSuffixOf_iff_suffix]
  exact ⟨fun h => ⟨h.2, h.1⟩, fun h => ⟨h.shorter, h.suffix⟩⟩

/-- What fits the same text with the same length is the same. -/
lemma Fits.eq_of_length {other : Text} (h : Fits lowered e) (hother : Fits lowered other)
    (hlength : other.length = e.length) : other = e :=
  (List.suffix_of_suffix_length_le hother.suffix h.suffix hlength.le).eq_of_length hlength

/-- An extension that fits is the longest one if no other is longer. -/
lemma isLongest_of_le (hmem : e ∈ extensions) (hfits : Fits lowered e)
    (h : ∀ other ∈ extensions, Fits lowered other → other.length ≤ e.length) : IsLongest lowered extensions e := by
  refine ⟨hmem, hfits, fun other hother hfit hne => ?_⟩
  have hle := h other hother hfit
  have hlength : other.length ≠ e.length := fun heq => hne (hfits.eq_of_length hfit heq)
  omega

lemma IsLongest.le (h : IsLongest lowered extensions e) {other : Text} (hother : other ∈ extensions)
    (hfits : Fits lowered other) : other.length ≤ e.length := by
  by_cases heq : other = e
  · rw [heq]
  · exact (h.longer other hother hfits heq).le

lemma IsLongest.unique {e' : Text} (h : IsLongest lowered extensions e) (h' : IsLongest lowered extensions e') :
    e = e' := by
  by_contra hne
  have hless := h'.longer e h.mem h.fits hne
  have hle := h.le h'.mem h'.fits
  omega

/-- Which extension is the longest depends on nothing but which extensions there are. -/
lemma IsLongest.congr {extensions' : List Text} (h : IsLongest lowered extensions e)
    (hmem : ∀ extension, extension ∈ extensions' ↔ extension ∈ extensions) : IsLongest lowered extensions' e :=
  ⟨(hmem e).mpr h.mem, h.fits, fun other hother => h.longer other ((hmem other).mp hother)⟩

/-! ## The search for the longest extension -/

lemma longer_some (b extension : Text) :
    ∃ e, longer (some b) extension = some e ∧ (e = b ∨ e = extension) ∧ b.length ≤ e.length ∧
      extension.length ≤ e.length := by
  unfold longer
  dsimp only
  split
  · next hless => exact ⟨extension, rfl, .inr rfl, hless.le, le_rfl⟩
  · next hle => exact ⟨b, rfl, .inl rfl, le_rfl, not_lt.mp hle⟩

/-- The longest so far is one of those that were tried, and none of them is longer. -/
lemma foldl_longer_some (extensions : List Text) (b : Text) :
    ∃ e, extensions.foldl longer (some b) = some e ∧ (e = b ∨ e ∈ extensions) ∧ b.length ≤ e.length ∧
      ∀ other ∈ extensions, other.length ≤ e.length := by
  induction extensions generalizing b with
  | nil => exact ⟨b, rfl, .inl rfl, le_rfl, fun other hother => absurd hother List.not_mem_nil⟩
  | cons extension rest ih =>
    obtain ⟨best, hbest, horigin, hb, hextension⟩ := longer_some b extension
    obtain ⟨e, hfold, hmem, hle, hrest⟩ := ih best
    refine ⟨e, by rw [List.foldl_cons, hbest, hfold], ?_, hb.trans hle, fun other hother => ?_⟩
    · rcases hmem with rfl | hmem
      · rcases horigin with rfl | rfl
        · exact .inl rfl
        · exact .inr List.mem_cons_self
      · exact .inr (List.mem_cons_of_mem extension hmem)
    · rcases List.mem_cons.mp hother with rfl | hother
      · exact hextension.trans hle
      · exact hrest other hother

lemma mem_filter_endsWithin :
    e ∈ extensions.filter (endsWithin lowered) ↔ e ∈ extensions ∧ Fits lowered e := by
  rw [List.mem_filter, endsWithin_iff]

/-- There is a longest extension, and it is found, or none fits. -/
lemma longest?_cases (name : Text) (extensions : List Text) :
    (∃ e, longest? name extensions = some e ∧ IsLongest (Text.lower name) extensions e) ∨
      (longest? name extensions = none ∧ ∀ e ∈ extensions, ¬ Fits (Text.lower name) e) := by
  unfold longest?
  cases hfilter : extensions.filter (endsWithin (Text.lower name)) with
  | nil =>
    refine .inr ⟨rfl, fun e he hfits => ?_⟩
    exact absurd (mem_filter_endsWithin.2 ⟨he, hfits⟩) (by rw [hfilter]; exact List.not_mem_nil)
  | cons first rest =>
    obtain ⟨e, hfold, hmem, hfirst, hrest⟩ := foldl_longer_some rest first
    have hcandidate : e ∈ extensions.filter (endsWithin (Text.lower name)) := by
      rw [hfilter, List.mem_cons]
      exact hmem
    obtain ⟨he, hfits⟩ := mem_filter_endsWithin.1 hcandidate
    refine .inl ⟨e, hfold, isLongest_of_le he hfits fun other hother hfit => ?_⟩
    have hothers : other ∈ first :: rest := hfilter ▸ mem_filter_endsWithin.2 ⟨hother, hfit⟩
    rcases List.mem_cons.mp hothers with rfl | hmem
    · exact hfirst
    · exact hrest other hmem

/-! ## Roles -/

variable {headers sources : List Text}

/-- The longest of one kind is the longest of both kinds, if none of the other kind is longer. -/
lemma IsLongest.of_append_left (h : IsLongest lowered headers e)
    (hsources : ∀ other ∈ sources, Fits lowered other → other.length ≤ e.length) :
    IsLongest lowered (headers ++ sources) e := by
  refine isLongest_of_le (List.mem_append_left sources h.mem) h.fits fun other hother hfits => ?_
  rcases List.mem_append.mp hother with hother | hother
  · exact h.le hother hfits
  · exact hsources other hother hfits

lemma IsLongest.of_append_right (h : IsLongest lowered sources e)
    (hheaders : ∀ other ∈ headers, Fits lowered other → other.length < e.length) :
    IsLongest lowered (headers ++ sources) e ∧ e ∉ headers := by
  refine ⟨isLongest_of_le (List.mem_append_right headers h.mem) h.fits fun other hother hfits => ?_, fun hmem => ?_⟩
  · rcases List.mem_append.mp hother with hother | hother
    · exact (hheaders other hother hfits).le
    · exact h.le hother hfits
  · exact absurd (hheaders e hmem h.fits) (lt_irrefl _)

/-- What a table says of a name: the longest extension that fits and the kind that it is of, a header's before a
source's; or that none fits. -/
inductive Decides (table : ExtensionTable) (lowered : Text) : Role × Option Text → Prop
  | header {e : Text} (h : IsLongest lowered (table.headers ++ table.sources) e) (hmem : e ∈ table.headers) :
      Decides table lowered (.header, some e)
  | source {e : Text} (h : IsLongest lowered (table.headers ++ table.sources) e) (hmem : e ∉ table.headers) :
      Decides table lowered (.source, some e)
  | other (h : ∀ e ∈ table.headers ++ table.sources, ¬ Fits lowered e) : Decides table lowered (.other, none)

lemma decides_roleExtension (table : ExtensionTable) (name : Text) :
    Decides table (Text.lower name) (table.roleExtension name) := by
  unfold roleExtension
  rcases longest?_cases name table.headers with ⟨h, hheader, hlongest⟩ | ⟨hheader, hnone⟩
  · rcases longest?_cases name table.sources with ⟨s, hsource, hlongest'⟩ | ⟨hsource, hnone'⟩
    · rw [hheader, hsource]
      dsimp only
      split
      · next hle => exact .header (hlongest.of_append_left fun _ ho hf => (hlongest'.le ho hf).trans hle) hlongest.mem
      · next hless =>
        have hheaders (other : Text) (hmem : other ∈ table.headers) (hfits : Fits (Text.lower name) other) :
            other.length < s.length := (hlongest.le hmem hfits).trans_lt (not_le.mp hless)
        obtain ⟨hboth, hnotMem⟩ := hlongest'.of_append_right hheaders
        exact .source hboth hnotMem
    · rw [hheader, hsource]
      exact .header (hlongest.of_append_left fun other ho hf => absurd hf (hnone' other ho)) hlongest.mem
  · rcases longest?_cases name table.sources with ⟨s, hsource, hlongest'⟩ | ⟨hsource, hnone'⟩
    · rw [hheader, hsource]
      have hheaders (other : Text) (hmem : other ∈ table.headers) (hfits : Fits (Text.lower name) other) :
          other.length < s.length := absurd hfits (hnone other hmem)
      obtain ⟨hboth, hnotMem⟩ := hlongest'.of_append_right hheaders
      exact .source hboth hnotMem
    · rw [hheader, hsource]
      exact .other fun e he => (List.mem_append.mp he).elim (hnone e) (hnone' e)

/-- A table says one thing of a name. -/
lemma Decides.unique {table : ExtensionTable} {answer answer' : Role × Option Text}
    (h : Decides table lowered answer) (h' : Decides table lowered answer') : answer = answer' := by
  cases h with
  | header hlongest hmem =>
    cases h' with
    | header hlongest' _ => rw [hlongest.unique hlongest']
    | source hlongest' hnotMem => exact absurd (hlongest.unique hlongest' ▸ hmem) hnotMem
    | other hnone => exact absurd hlongest.fits (hnone _ hlongest.mem)
  | source hlongest hnotMem =>
    cases h' with
    | header hlongest' hmem => exact absurd (hlongest'.unique hlongest ▸ hmem) hnotMem
    | source hlongest' _ => rw [hlongest.unique hlongest']
    | other hnone => exact absurd hlongest.fits (hnone _ hlongest.mem)
  | other hnone =>
    cases h' with
    | header hlongest' _ => exact absurd hlongest'.fits (hnone _ hlongest'.mem)
    | source hlongest' _ => exact absurd hlongest'.fits (hnone _ hlongest'.mem)
    | other _ => rfl

/-- What a table says of a name depends on nothing but which extensions there are. -/
lemma Decides.congr {table table' : ExtensionTable} {answer : Role × Option Text}
    (h : Decides table lowered answer) (hheaders : ∀ e, e ∈ table'.headers ↔ e ∈ table.headers)
    (hsources : ∀ e, e ∈ table'.sources ↔ e ∈ table.sources) : Decides table' lowered answer := by
  have hboth : ∀ e, e ∈ table'.headers ++ table'.sources ↔ e ∈ table.headers ++ table.sources := by
    intro e
    rw [List.mem_append, List.mem_append, hheaders, hsources]
  cases h with
  | header hlongest hmem => exact .header (hlongest.congr hboth) ((hheaders _).mpr hmem)
  | source hlongest hnotMem => exact .source (hlongest.congr hboth) fun hmem => hnotMem ((hheaders _).mp hmem)
  | other hnone => exact .other fun e he => hnone e ((hboth e).mp he)

/-- The role of a name is that of the longest extension that fits it, whatever the order of the extensions. -/
theorem roleExtension_isLongest (table : ExtensionTable) (name : Text) :
    (∀ answer, table.roleExtension name = answer ↔ Decides table (Text.lower name) answer) ∧
    ∀ table' : ExtensionTable, (∀ e, e ∈ table'.headers ↔ e ∈ table.headers) →
      (∀ e, e ∈ table'.sources ↔ e ∈ table.sources) → table'.roleExtension name = table.roleExtension name := by
  have hdecides := decides_roleExtension table name
  refine ⟨fun answer => ⟨fun h => h ▸ hdecides, hdecides.unique⟩, fun table' hheaders hsources => ?_⟩
  exact (decides_roleExtension table' name).unique (hdecides.congr hheaders hsources)

/-- A table in which an extension of sources ends with one of headers, and one is not in lower case. -/
def templateTable : ExtensionTable where
  headers := [".h".toList, ".hh".toList]
  sources := [".c".toList, ".In.h".toList, ".in.h".toList]
  suffixes := []

/-- The same extensions in another order, one of them twice. -/
def templateTableReordered : ExtensionTable where
  headers := [".hh".toList, ".h".toList, ".hh".toList]
  sources := [".in.h".toList, ".c".toList, ".In.h".toList]
  suffixes := []

/-- In either order the longer extension decides. -/
theorem roleExtension_isLongest_templateTable :
    (∀ e, e ∈ templateTableReordered.headers ↔ e ∈ templateTable.headers) ∧
    (∀ e, e ∈ templateTableReordered.sources ↔ e ∈ templateTable.sources) ∧
    templateTableReordered.roleExtension "Vec.IN.H".toList = (.source, some ".in.h".toList) ∧
    Decides templateTable "vec.in.h".toList (.source, some ".in.h".toList) := by
  obtain ⟨hanswer, horder⟩ := roleExtension_isLongest templateTable "Vec.IN.H".toList
  have hheaders : ∀ e, e ∈ templateTableReordered.headers ↔ e ∈ templateTable.headers := by
    intro e
    simp only [templateTable, templateTableReordered, List.mem_cons, List.not_mem_nil, or_false]
    tauto
  have hsources : ∀ e, e ∈ templateTableReordered.sources ↔ e ∈ templateTable.sources := by
    intro e
    simp only [templateTable, templateTableReordered, List.mem_cons, List.not_mem_nil, or_false]
    tauto
  have hname : templateTable.roleExtension "Vec.IN.H".toList = (.source, some ".in.h".toList) := by decide +kernel
  have hlower : Text.lower "Vec.IN.H".toList = "vec.in.h".toList := by decide +kernel
  refine ⟨hheaders, hsources, (horder _ hheaders hsources).trans hname, ?_⟩
  rw [← hlower]
  exact (hanswer _).mp hname

end Counterpart.ExtensionTable
