import Counterpart.Proofs.ExtensionTable.Basename
import Counterpart.Proofs.Lookup.Results
import Counterpart.Proofs.Path.LastPart

/-!
# Companion suffixes

A header may have a suffix that its source has not.  If no suffix ends another one, the two have the same base name all
the same, and a probe for the one finds the other.

* `AreNamedAlike` says how the two are named;
* `Probe.run_of_isOnlyIn`: a probe finds a file that is the only one of its kind in a directory;
* `basename_acrossSuffix`: a header and a source that are named alike find each other.
-/

namespace Counterpart

/-! ## Single files -/

namespace Probe

variable {probe : Probe} {fs : FileSystem} {cwd dir file : Path}

/-- A file in a directory is the only one there that a probe looks for. -/
structure IsOnlyIn (probe : Probe) (fs : FileSystem) (cwd dir file : Path) : Prop where
  listed : file ∈ fs.filesIn cwd dir
  only : ∀ other ∈ fs.filesIn cwd dir, probe.table.role other.text = probe.role →
    probe.table.basename other.text = probe.basename → other = file

lemma run_of_listed (probe : Probe) (h : file ∈ fs.filesIn cwd dir) :
    ∃ notes, probe.run fs cwd dir = .ok ((fs.filesIn cwd dir).find? probe.accepts, notes) := by
  unfold FileSystem.filesIn at h ⊢
  unfold run FileSystem.listing
  cases hfiles : fs.files cwd dir with
  | ok files => exact ⟨[], rfl⟩
  | error e =>
    rw [hfiles] at h
    exact absurd h List.not_mem_nil

/-- A probe finds a file that is the only one that it looks for. -/
lemma run_of_isOnlyIn (h : probe.IsOnlyIn fs cwd dir file) (hrole : probe.table.role file.text = probe.role)
    (hbasename : probe.table.basename file.text = probe.basename) :
    ∃ notes, probe.run fs cwd dir = .ok (some file, notes) := by
  obtain ⟨notes, hrun⟩ := probe.run_of_listed h.listed
  have haccepts : probe.accepts file = true := accepts_iff.mpr ⟨hrole, hbasename⟩
  obtain ⟨found, hfound⟩ := Option.isSome_iff_exists.mp (List.find?_isSome.mpr ⟨file, h.listed, haccepts⟩)
  obtain ⟨hfoundRole, hfoundBasename⟩ := accepts_iff.mp (List.find?_some hfound)
  obtain rfl := h.only found (List.mem_of_find?_eq_some hfound) hfoundRole hfoundBasename
  exact ⟨notes, by rw [hrun, hfound]⟩

end Probe

/-! ## Names -/

namespace ExtensionTable

variable {table table' : ExtensionTable} {role : Role}
variable {path stem suffix extension headerExtension sourceExtension : Text}

/-- Without its extension a name leaves what stands before the extension, as far as that goes without a suffix. -/
lemma basename_of_name (hpath : Text.afterLast '/' path = stem ++ extension)
    (h : table.roleExtension (stem ++ extension) = (role, some extension)) :
    table.basename path = withoutSuffix table.suffixes stem := by
  unfold basename basenameOfName
  rw [hpath, h]
  dsimp only
  rw [Text.cutEnd_append]

/-- A header and a source are named alike: both begin with the same stem, which no suffix ends, and there is a suffix
behind it in the name of the header, or none. -/
structure AreNamedAlike (table : ExtensionTable) (stem suffix headerExtension sourceExtension : Text) : Prop where
  apart : IsApart table.suffixes
  stem_ne_nil : stem ≠ []
  noSuffix : (∀ other ∈ table.suffixes, ¬ other <:+ stem) ∨ stem ∈ table.suffixes
  suffix_mem : suffix = [] ∨ suffix ∈ table.suffixes
  header : table.roleExtension (stem ++ suffix ++ headerExtension) = (.header, some headerExtension)
  source : table.roleExtension (stem ++ sourceExtension) = (.source, some sourceExtension)

/-- A table holds the same as another one, in whatever order. -/
structure HoldsSame (table' table : ExtensionTable) : Prop where
  headers : ∀ e, e ∈ table'.headers ↔ e ∈ table.headers
  sources : ∀ e, e ∈ table'.sources ↔ e ∈ table.sources
  suffixes : ∀ suffix, suffix ∈ table'.suffixes ↔ suffix ∈ table.suffixes

lemma HoldsSame.roleExtension_eq (h : HoldsSame table' table) (name : Text) :
    table'.roleExtension name = table.roleExtension name :=
  (decides_roleExtension table' name).unique ((decides_roleExtension table name).congr h.headers h.sources)

/-- Names are alike whatever the order in a table. -/
lemma AreNamedAlike.reorder (h : AreNamedAlike table stem suffix headerExtension sourceExtension)
    (hsame : HoldsSame table' table) : AreNamedAlike table' stem suffix headerExtension sourceExtension where
  apart := fun one hone other hother =>
    h.apart one ((hsame.suffixes one).mp hone) other ((hsame.suffixes other).mp hother)
  stem_ne_nil := h.stem_ne_nil
  noSuffix := h.noSuffix.imp (fun hnone other hother => hnone other ((hsame.suffixes other).mp hother))
    (hsame.suffixes stem).mpr
  suffix_mem := h.suffix_mem.imp_right (hsame.suffixes suffix).mpr
  header := (hsame.roleExtension_eq _).trans h.header
  source := (hsame.roleExtension_eq _).trans h.source

lemma AreNamedAlike.basename_header (h : AreNamedAlike table stem suffix headerExtension sourceExtension)
    (hpath : Text.afterLast '/' path = stem ++ suffix ++ headerExtension) : table.basename path = stem := by
  rw [basename_of_name hpath h.header]
  rcases h.suffix_mem with rfl | hsuffix
  · rw [List.append_nil]
    exact withoutSuffix_of_noSuffix h.apart h.noSuffix
  · exact withoutSuffix_append h.apart hsuffix h.stem_ne_nil

lemma AreNamedAlike.basename_source (h : AreNamedAlike table stem suffix headerExtension sourceExtension)
    (hpath : Text.afterLast '/' path = stem ++ sourceExtension) : table.basename path = stem := by
  rw [basename_of_name hpath h.source]
  exact withoutSuffix_of_noSuffix h.apart h.noSuffix

/-- A header and a source that are named alike have the stem as their base name, whatever the order of the suffixes.  So
a probe for either finds the other one, if that is the only one of its kind in a directory. -/
theorem basename_acrossSuffix (h : AreNamedAlike table stem suffix headerExtension sourceExtension)
    (hsame : HoldsSame table' table) :
    ('/' ∉ stem ++ suffix ++ headerExtension → table'.basename (stem ++ suffix ++ headerExtension) = stem) ∧
    ('/' ∉ stem ++ sourceExtension → table'.basename (stem ++ sourceExtension) = stem) ∧
    ∀ header source : Path, header.lastPart = stem ++ suffix ++ headerExtension →
      source.lastPart = stem ++ sourceExtension → ∀ (fs : FileSystem) (cwd dir : Path),
      (Probe.IsOnlyIn ⟨stem, .header, table'⟩ fs cwd dir header →
        ∃ notes, Probe.run ⟨table'.basename source.text, .header, table'⟩ fs cwd dir = .ok (some header, notes)) ∧
      (Probe.IsOnlyIn ⟨stem, .source, table'⟩ fs cwd dir source →
        ∃ notes, Probe.run ⟨table'.basename header.text, .source, table'⟩ fs cwd dir = .ok (some source, notes)) := by
  have halike := h.reorder hsame
  refine ⟨fun hslash => ?_, fun hslash => ?_, fun header source hheader hsource fs cwd dir => ?_⟩
  · exact halike.basename_header (Path.afterLast_of_notMem hslash)
  · exact halike.basename_source (Path.afterLast_of_notMem hslash)
  · have hheaderName := halike.basename_header hheader
    have hsourceName := halike.basename_source hsource
    have hheaderRole : table'.role header.text = .header := by rw [Path.role_eq, hheader, halike.header]
    have hsourceRole : table'.role source.text = .source := by rw [Path.role_eq, hsource, halike.source]
    rw [hheaderName, hsourceName]
    exact ⟨fun honly => Probe.run_of_isOnlyIn honly hheaderRole hheaderName,
      fun honly => Probe.run_of_isOnlyIn honly hsourceRole hsourceName⟩

/-- The table unless configured, with its suffixes the other way round. -/
def suffixesReversed : ExtensionTable := { default with suffixes := default.suffixes.reverse }

/-- A directory with a source, a header of its own, and one of another base name. -/
def internalHeader : FileSystem :=
  ((FileSystem.empty.put (Path.ofText "/p/Foo.cc".toList).components { entry := .file [] }).put
    (Path.ofText "/p/Foo-inlay.h".toList).components { entry := .file [] }).put
      (Path.ofText "/p/FooInternal.hpp".toList).components { entry := .file [] }

/-- The source and the header with a suffix find each other. -/
theorem basename_acrossSuffix_internalHeader :
    AreNamedAlike default "Foo".toList "Internal".toList ".hpp".toList ".cc".toList ∧
    HoldsSame suffixesReversed default ∧ suffixesReversed.basename "FooInternal.hpp".toList = "Foo".toList ∧
    ∃ notes notes',
      Probe.run ⟨suffixesReversed.basename (Path.ofText "/p/Foo.cc".toList).text, .header, suffixesReversed⟩
        internalHeader Path.root (Path.ofText "/p".toList)
          = .ok (some (Path.ofText "/p/FooInternal.hpp".toList), notes) ∧
      Probe.run ⟨suffixesReversed.basename (Path.ofText "/p/FooInternal.hpp".toList).text, .source, suffixesReversed⟩
        internalHeader Path.root (Path.ofText "/p".toList) = .ok (some (Path.ofText "/p/Foo.cc".toList), notes') := by
  have halike : AreNamedAlike default "Foo".toList "Internal".toList ".hpp".toList ".cc".toList :=
    ⟨by unfold IsApart; decide, by decide, .inl (by decide), .inr (by decide), by decide +kernel, by decide +kernel⟩
  have hsame : HoldsSame suffixesReversed default := ⟨fun _ => Iff.rfl, fun _ => Iff.rfl, fun _ => List.mem_reverse⟩
  have hfiles : internalHeader.filesIn Path.root (Path.ofText "/p".toList)
      = [Path.ofText "/p/Foo.cc".toList, Path.ofText "/p/Foo-inlay.h".toList,
          Path.ofText "/p/FooInternal.hpp".toList] := by decide +kernel
  have hheader : Probe.IsOnlyIn ⟨"Foo".toList, .header, suffixesReversed⟩ internalHeader Path.root
      (Path.ofText "/p".toList) (Path.ofText "/p/FooInternal.hpp".toList) := by
    refine ⟨by rw [hfiles]; decide, ?_⟩
    rw [hfiles]
    decide +kernel
  have hsource : Probe.IsOnlyIn ⟨"Foo".toList, .source, suffixesReversed⟩ internalHeader Path.root
      (Path.ofText "/p".toList) (Path.ofText "/p/Foo.cc".toList) := by
    refine ⟨by rw [hfiles]; decide, ?_⟩
    rw [hfiles]
    decide +kernel
  obtain ⟨hname, -, hprobes⟩ := basename_acrossSuffix halike hsame
  obtain ⟨hfindsHeader, hfindsSource⟩ := hprobes (Path.ofText "/p/FooInternal.hpp".toList)
    (Path.ofText "/p/Foo.cc".toList) (by decide +kernel) (by decide +kernel) internalHeader Path.root
      (Path.ofText "/p".toList)
  obtain ⟨notes, hrun⟩ := hfindsHeader hheader
  obtain ⟨notes', hrun'⟩ := hfindsSource hsource
  exact ⟨halike, hsame, hname (by decide), notes, notes', hrun, hrun'⟩

end ExtensionTable

end Counterpart
