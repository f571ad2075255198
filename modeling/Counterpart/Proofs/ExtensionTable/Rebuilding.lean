import Counterpart.Proofs.ExtensionTable.Normal
import Counterpart.Proofs.Text.SortedSet
import Counterpart.Proofs.Text.Stripping
import Mathlib.Logic.Relation

/-!
# Tables built from lists

A table does not show how the entries of its lists were spelled, and it can be built again from what it holds.

* `Respells.normalize_eq`: blanks around an entry, its leading dot and its case are not seen;
* `normalSet_of_isNormal`: a set of normal forms is built from its members;
* `ofLists_reachesNormalForm`: both for tables.
-/

namespace Counterpart.ExtensionTable

variable {e entry entry' : Text} {entries entries' extensions : List Text}
  {headers sources suffixes : Option (List Text)} {table : ExtensionTable}

/-! ## Spellings of an entry -/

/-- An entry is spelled in another way: with blanks around it, without its dot where the rest cannot be taken for
something else, or in lower case. -/
inductive Respells : Text → Text → Prop
  | blanks {before after : Text} (entry : Text) (hbefore : ∀ c ∈ before, Text.isBlank c = true)
      (hafter : ∀ c ∈ after, Text.isBlank c = true) : Respells entry (before ++ entry ++ after)
  | noDot {c : Char} (rest : Text) (hdot : c ≠ '.') (hblank : Text.isBlank c = false) :
      Respells ('.' :: c :: rest) (c :: rest)
  | lower (entry : Text) : Respells entry (Text.lower entry)

lemma normalize_congr (h : Text.strip entry = Text.strip entry') : normalize entry = normalize entry' := by
  unfold normalize
  rw [h]

lemma normalize_lower (entry : Text) : normalize (Text.lower entry) = normalize entry := by
  unfold normalize
  rw [Text.strip_lower, Text.lower_lower]

/-- Nothing is cut off the beginning of a text that does not begin with a blank. -/
lemma strip_cons {c : Char} (hc : Text.isBlank c = false) (rest : Text) :
    Text.strip (c :: rest) = c :: Text.trimEnd Text.isBlank rest := by
  unfold Text.strip Text.trim
  rw [List.dropWhile_cons_of_neg (by simp [hc])]
  exact Text.trimEnd_append_cons [] rest hc

lemma normalize_noDot {c : Char} (hdot : c ≠ '.') (hblank : Text.isBlank c = false) (rest : Text) :
    normalize (c :: rest) = normalize ('.' :: c :: rest) := by
  have hrest : Text.trimEnd Text.isBlank (c :: rest) = c :: Text.trimEnd Text.isBlank rest :=
    Text.trimEnd_append_cons [] rest hblank
  have hwith : Text.strip ('.' :: c :: rest) = '.' :: Text.strip (c :: rest) := by
    rw [strip_cons (by decide), strip_cons hblank, hrest]
  have hwithout := strip_cons hblank rest
  have hdotted : dotted (Text.strip (c :: rest)) = '.' :: Text.strip (c :: rest) :=
    dotted_of_head?_ne (by rw [hwithout]; simpa using hdot)
  calc normalize (c :: rest) = Text.lower (dotted (Text.strip (c :: rest))) :=
        normalize_eq (by rw [hwithout]; exact List.cons_ne_nil _ _)
    _ = Text.lower (dotted (Text.strip ('.' :: c :: rest))) := by rw [hdotted, hwith]; rfl
    _ = normalize ('.' :: c :: rest) := (normalize_eq (by rw [hwith]; exact List.cons_ne_nil _ _)).symm

/-- All spellings of an entry have the same normal form. -/
lemma Respells.normalize_eq (h : Respells entry entry') : normalize entry = normalize entry' := by
  cases h with
  | blanks entry hbefore hafter =>
    refine normalize_congr ?_
    rw [List.append_assoc]
    exact (Text.trim_around hbefore hafter).symm
  | noDot rest hdot hblank => exact (normalize_noDot hdot hblank rest).symm
  | lower entry => exact (normalize_lower entry).symm

/-- Two lists of entries differ by nothing but the spelling of the entries, or both are missing. -/
def AreRespelled : Option (List Text) → Option (List Text) → Prop :=
  Option.Rel (List.Forall₂ (Relation.EqvGen Respells))

lemma normalize_eqvGen (h : Relation.EqvGen Respells entry entry') : normalize entry = normalize entry' := by
  have hsame : Relation.EqvGen (fun e e' => normalize e = normalize e') entry entry' :=
    h.mono fun _ _ hstep => hstep.normalize_eq
  exact (eq_equivalence.comap normalize).eqvGen_iff.mp hsame

lemma normalSet_congr (h : List.Forall₂ (Relation.EqvGen Respells) entries entries') :
    normalSet entries = normalSet entries' := by
  have hforms : entries.map normalize = entries'.map normalize := by
    induction h with
    | nil => rfl
    | cons hentry _ ih => rw [List.map_cons, List.map_cons, normalize_eqvGen hentry, ih]
  unfold normalSet
  rw [hforms]

lemma AreRespelled.normalSet_eq (h : AreRespelled headers sources) : headers.map normalSet = sources.map normalSet := by
  cases h with
  | none => rfl
  | some hentries => exact congrArg some (normalSet_congr hentries)

/-! ## Building again -/

/-- A set of normal forms is built from its members, in whatever order they are given. -/
lemma normalSet_of_isNormal (hnormal : ∀ e ∈ Text.sortedSet extensions, IsNormal e)
    (h : ∀ e, e ∈ entries ↔ e ∈ Text.sortedSet extensions) : normalSet entries = Text.sortedSet extensions := by
  refine Text.sortedSet_eq_of_mem_iff fun e => ?_
  rw [List.mem_filter, List.mem_map, decide_eq_true_eq, ← h]
  constructor
  · rintro ⟨⟨entry, hentry, rfl⟩, -⟩
    rwa [(hnormal entry ((h entry).mp hentry)).normalize_eq]
  · intro he
    have hform := hnormal e ((h e).mp he)
    exact ⟨⟨e, he, hform.normalize_eq⟩, hform.ne_nil⟩

/-- The extensions of a table of lists are a sorted set. -/
lemma exists_sortedSet (lists : Option (List Text)) (default : List Text) :
    ∃ extensions, (lists.map normalSet).getD (Text.sortedSet default) = Text.sortedSet extensions := by
  cases lists with
  | none => exact ⟨default, rfl⟩
  | some entries => exact ⟨_, rfl⟩

/-- No suffix of a table of lists is empty. -/
lemma suffix_ofLists_ne_nil {suffix : Text} (h : suffix ∈ (ofLists headers sources suffixes).suffixes) :
    suffix ≠ [] := by
  cases suffixes with
  | none => exact (show ∀ suffix ∈ defaultSuffixes, suffix ≠ [] by decide) suffix h
  | some given => simpa using (List.mem_filter.mp h).2

/-- A list that holds the extensions of a table gives these extensions. -/
lemma normalSet_rebuilt {lists : Option (List Text)} {default : List Text}
    (hdefault : ∀ e ∈ Text.sortedSet default, IsNormal e)
    (h : ∀ e, e ∈ entries ↔ e ∈ (lists.map normalSet).getD (Text.sortedSet default)) :
    normalSet entries = (lists.map normalSet).getD (Text.sortedSet default) := by
  have hnormal (e : Text) (he : e ∈ (lists.map normalSet).getD (Text.sortedSet default)) : IsNormal e :=
    isNormal_of_mem_getD hdefault he
  obtain ⟨extensions, hextensions⟩ := exists_sortedSet lists default
  rw [hextensions] at h hnormal ⊢
  exact normalSet_of_isNormal hnormal h

/-- A table of lists is built again from what it holds. -/
lemma ofLists_rebuilt {headers' sources' : List Text}
    (hheaders : ∀ e, e ∈ headers' ↔ e ∈ (ofLists headers sources suffixes).headers)
    (hsources : ∀ e, e ∈ sources' ↔ e ∈ (ofLists headers sources suffixes).sources) :
    ofLists (some headers') (some sources') (some (ofLists headers sources suffixes).suffixes)
      = ofLists headers sources suffixes := by
  have hheaders' : normalSet headers' = (ofLists headers sources suffixes).headers :=
    normalSet_rebuilt (fun e he => isNormal_of_mem_defaults (List.mem_append_left _ he)) hheaders
  have hsources' : normalSet sources' = (ofLists headers sources suffixes).sources :=
    normalSet_rebuilt (fun e he => isNormal_of_mem_defaults (List.mem_append_right _ he)) hsources
  have hsuffixes : (ofLists headers sources suffixes).suffixes.filter (· ≠ [])
      = (ofLists headers sources suffixes).suffixes :=
    List.filter_eq_self.mpr fun suffix hsuffix => by simpa using suffix_ofLists_ne_nil hsuffix
  calc ofLists (some headers') (some sources') (some (ofLists headers sources suffixes).suffixes)
      = ⟨normalSet headers', normalSet sources', (ofLists headers sources suffixes).suffixes.filter (· ≠ [])⟩ := rfl
    _ = ofLists headers sources suffixes := by rw [hheaders', hsources', hsuffixes]

/-! ## Tables -/

/-- Lists that differ in the spelling of their entries give the same table. -/
lemma ofLists_congr {headers' sources' : Option (List Text)} (hheaders : AreRespelled headers headers')
    (hsources : AreRespelled sources sources') :
    ofLists headers' sources' suffixes = ofLists headers sources suffixes := by
  unfold ofLists
  rw [hheaders.normalSet_eq, hsources.normalSet_eq]

/-- The extensions are the lower-case forms of what the entries of a list write, with their dots; blank entries have
none. -/
def AreFormsOf (lists : Option (List Text)) (extensions : List Text) : Prop :=
  ∀ given, lists = some given → ∀ e, e ∈ extensions ↔
    ∃ entry ∈ given, Text.strip entry ≠ [] ∧ Text.lower (dotted (Text.strip entry)) = e

lemma areFormsOf_getD (lists : Option (List Text)) (default : List Text) :
    AreFormsOf lists ((lists.map normalSet).getD default) := by
  rintro given rfl e
  refine mem_normalSet_iff.trans <| exists_congr fun entry => and_congr_right fun _ => and_congr_right fun hblank => ?_
  rw [normalize_eq hblank]

/-- The suffixes are those of a list that are not empty, each as often as in the list and in its order. -/
def AreKeptFrom (given suffixes : List Text) : Prop :=
  suffixes.Sublist given ∧ ∀ suffix, suffix ≠ [] → suffixes.count suffix = given.count suffix

lemma areKeptFrom_filter (given : List Text) : AreKeptFrom given (given.filter (· ≠ [])) :=
  ⟨List.filter_sublist, fun _ hne => List.count_filter (by simpa using hne)⟩

/-- A table of lists holds extensions in normal form, those of the entries, and the suffixes that are not empty.  It is
built again from what it holds, and from lists that differ in the spelling of their entries. -/
theorem ofLists_reachesNormalForm (h : ofLists headers sources suffixes = table) :
    (∀ e ∈ table.headers ++ table.sources, IsNormal e) ∧
    AreFormsOf headers table.headers ∧ AreFormsOf sources table.sources ∧
    (∀ suffix ∈ table.suffixes, suffix ≠ []) ∧ (∀ given, suffixes = some given → AreKeptFrom given table.suffixes) ∧
    (∀ headers' sources' : List Text, (∀ e, e ∈ headers' ↔ e ∈ table.headers) →
      (∀ e, e ∈ sources' ↔ e ∈ table.sources) →
      ofLists (some headers') (some sources') (some table.suffixes) = table) ∧
    (∀ headers' sources' : Option (List Text), AreRespelled headers headers' → AreRespelled sources sources' →
      ofLists headers' sources' suffixes = table) := by
  subst h
  refine ⟨fun e he => isNormal_of_mem_ofLists he, areFormsOf_getD headers _, areFormsOf_getD sources _,
    fun suffix hsuffix => suffix_ofLists_ne_nil hsuffix, ?_,
    fun headers' sources' hheaders hsources => ofLists_rebuilt hheaders hsources,
    fun headers' sources' hheaders hsources => ofLists_congr hheaders hsources⟩
  rintro given rfl
  exact areKeptFrom_filter given

/-- A table with a sigma at the end of an entry, built again and from other spellings. -/
theorem ofLists_reachesNormalForm_sigma :
    ['.', 'a', 'ς'] ∈ (ofLists (some [" PB.h ".toList, ['A', 'Σ']]) none none).headers ∧
    ofLists (some [".pb.h".toList, ['.', 'a', 'ς']]) (some defaultSources) (some defaultSuffixes)
      = ofLists (some [" PB.h ".toList, ['A', 'Σ']]) none none ∧
    ofLists (some ["pb.h".toList, ['.', 'a', 'ς']]) none none
      = ofLists (some [" PB.h ".toList, ['A', 'Σ']]) none none := by
  obtain ⟨-, hforms, -, -, -, hrebuilt, hrespelled⟩ := ofLists_reachesNormalForm
    (show ofLists (some [" PB.h ".toList, ['A', 'Σ']]) none none = _ from rfl)
  have hheaders : (ofLists (some [" PB.h ".toList, ['A', 'Σ']]) none none).headers
      = [['.', 'a', 'ς'], ".pb.h".toList] := by decide +kernel
  have hspaces : Relation.EqvGen Respells " PB.h ".toList "pb.h".toList := by
    have hblank : ∀ c ∈ [' '], Text.isBlank c = true := List.forall_mem_singleton.mpr (by decide)
    have hblanks : Respells "PB.h".toList ([' '] ++ "PB.h".toList ++ [' ']) := .blanks _ hblank hblank
    exact .trans _ "PB.h".toList _ (.symm _ _ (.rel _ _ hblanks)) (.rel _ _ (.lower _))
  have hsigma : Relation.EqvGen Respells ['A', 'Σ'] ['.', 'a', 'ς'] := by
    have hlower : Text.lower ['A', 'Σ'] = ['a', 'ς'] := by decide +kernel
    have hdot : Respells ['.', 'a', 'ς'] ['a', 'ς'] := .noDot _ (by decide) (by decide)
    exact .trans _ ['a', 'ς'] _ (.rel _ _ (hlower ▸ .lower _)) (.symm _ _ (.rel _ _ hdot))
  refine ⟨(hforms _ rfl _).mpr ⟨['A', 'Σ'], by decide, by decide +kernel, by decide +kernel⟩, ?_,
    hrespelled _ _ (.some (.cons hspaces (.cons hsigma .nil))) .none⟩
  refine hrebuilt _ defaultSources (fun e => ?_) fun e => Iff.rfl
  rw [hheaders]
  exact (List.Perm.swap _ _ []).mem_iff

end Counterpart.ExtensionTable
