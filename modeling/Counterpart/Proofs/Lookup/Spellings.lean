import Counterpart.Lookup
import Counterpart.Proofs.Path.Spelling

/-!
# Lookups and the spelling of paths

A lookup sees nothing of an argument but the normal form of the path that it gives.

* `treatsAlike_of_require_eq`: arguments that give the same path cannot be told apart;
* `require_givesNormalForm`: so neither can two spellings of one path, and its normal form is one of them.
-/

namespace Counterpart

namespace Lookup

variable {around : Surroundings} {arg arg' : Argument}

/-- No lookup tells one argument from another, be it the file or the project. -/
structure TreatsAlike (around : Surroundings) (arg arg' : Argument) : Prop where
  headerForSource : ∀ table, headerForSource around table arg = headerForSource around table arg'
  sourceForHeader : ∀ table scanner limit other,
    sourceForHeader around table scanner limit arg other = sourceForHeader around table scanner limit arg' other ∧
      sourceForHeader around table scanner limit other arg = sourceForHeader around table scanner limit other arg'
  search : ∀ table scanner directives other,
    Search.ofArguments around arg other table scanner directives
        = Search.ofArguments around arg' other table scanner directives ∧
      Search.ofArguments around other arg table scanner directives
        = Search.ofArguments around other arg' table scanner directives
  firstIncludingSource : ∀ table scanner directives other,
    firstIncludingSource around arg other table scanner directives
        = firstIncludingSource around arg' other table scanner directives ∧
      firstIncludingSource around other arg table scanner directives
        = firstIncludingSource around other arg' table scanner directives
  companion : ∀ table scanner limit other,
    companion around table scanner limit arg other = companion around table scanner limit arg' other ∧
      companion around table scanner limit other arg = companion around table scanner limit other arg'

lemma treatsAlike_of_require_eq (h : ∀ name, arg.require name around.cwd = arg'.require name around.cwd) :
    TreatsAlike around arg arg' := by
  have hsource (table scanner limit other) :
      sourceForHeader around table scanner limit arg other = sourceForHeader around table scanner limit arg' other ∧
        sourceForHeader around table scanner limit other arg
          = sourceForHeader around table scanner limit other arg' := by
    unfold sourceForHeader
    rw [h, h]
    exact ⟨rfl, rfl⟩
  have hsearch (table scanner directives other) :
      Search.ofArguments around arg other table scanner directives
          = Search.ofArguments around arg' other table scanner directives ∧
        Search.ofArguments around other arg table scanner directives
          = Search.ofArguments around other arg' table scanner directives := by
    unfold Search.ofArguments
    rw [h, h]
    exact ⟨rfl, rfl⟩
  refine ⟨fun table => ?_, hsource, hsearch, fun table scanner directives other => ?_,
    fun table scanner limit other => ?_⟩
  · unfold headerForSource
    rw [h]
  · unfold firstIncludingSource
    obtain ⟨hfile, hproject⟩ := hsearch table scanner directives other
    rw [hfile, hproject]
    exact ⟨rfl, rfl⟩
  · unfold companion
    rw [h]
    refine ⟨rfl, ?_⟩
    -- the project matters for a header alone
    cases other.require "path" around.cwd with
    | error e => rfl
    | ok path =>
      dsimp only
      rw [(hsource table scanner limit (.path path)).2]

end Lookup

namespace Argument

open Counterpart.Path

variable {around : Surroundings} {cwd : Path} {t u : Text}

lemma require_text (hempty : t ≠ []) (hnul : '\x00' ∉ t) (name : String) (cwd : Path) :
    (Argument.text t).require name cwd = .ok ((ofText t).absolute cwd) :=
  require_eq_ok_iff.mpr ⟨rfl, t, rfl, hempty, hnul, rfl⟩

/-- A text that is accepted gives one path in normal form, whatever the argument is called.  The path, and the text that
it writes, give that path again, wherever they are seen from.  Another spelling gives it too, so that no lookup tells it
from the first one. -/
theorem require_givesNormalForm (hcwd : around.cwd.IsWorkingDirectory) (hempty : t ≠ []) (hnul : '\x00' ∉ t) :
    ∃ p, (∀ name, (Argument.text t).require name around.cwd = .ok p) ∧
      p.isAbsolute = true ∧ (∀ c ∈ p.components, IsName c.val) ∧ IsNormalText p.text ∧
      (leadingSlashes p.text = 2 ↔ leadingSlashes (joinText around.cwd.text t) = 2) ∧
      (∀ name cwd, (Argument.text p.text).require name cwd = .ok p ∧ (Argument.path p).require name cwd = .ok p) ∧
      ∀ u, u ≠ [] → '\x00' ∉ u → SpellsSame t u →
        (∀ name, (Argument.text u).require name around.cwd = .ok p) ∧
        Lookup.TreatsAlike around (.text t) (.text u) := by
  have hrequire (name : String) := require_text hempty hnul name around.cwd
  have hnormal := isNormal_absolute (ofText t) hcwd.absolute
  have hfree := isNulFree_of_require hcwd.nulFree (hrequire "path")
  refine ⟨_, hrequire, hnormal.absolute, hnormal.isName, isNormalText_text hnormal,
    leadingSlashes_absolute_eq_two_iff hcwd.absolute t, fun name cwd => ⟨?_, require_path hnormal hfree name cwd⟩,
    fun u hempty' hnul' hsame => ?_⟩
  · rw [require_text (text_ne_nil _) hfree.text, ofText_text, hnormal.absolute_eq]
  · have hother (name : String) : (Argument.text u).require name around.cwd = .ok ((ofText t).absolute around.cwd) := by
      rw [require_text hempty' hnul', hsame.absolute_eq]
    exact ⟨hother, Lookup.treatsAlike_of_require_eq fun name => (hrequire name).trans (hother name).symm⟩

/-- A working directory below the root that is written with two slashes. -/
def twoSlashes : Surroundings := { fs := .empty, cwd := ofText "//w".toList }

/-- From there a way up leads to that root.  A detour, a dot and a slash too many change nothing. -/
theorem require_givesNormalForm_twoSlashes :
    twoSlashes.cwd.IsWorkingDirectory ∧ SpellsSame "a/../../c/.".toList "..//c".toList ∧
    (Argument.text "a/../../c/.".toList).require "path" twoSlashes.cwd = .ok (ofText "//c".toList) ∧
    leadingSlashes (joinText twoSlashes.cwd.text "a/../../c/.".toList) = 2 ∧
    (Argument.text "//c".toList).require "path" Path.root = .ok (ofText "//c".toList) ∧
    Lookup.TreatsAlike twoSlashes (.text "a/../../c/.".toList) (.text "..//c".toList) := by
  have hcwd : twoSlashes.cwd.IsWorkingDirectory := by
    refine ⟨rfl, ?_⟩
    unfold IsNulFree
    decide
  have hsame : SpellsSame "a/../../c/.".toList "..//c".toList := by
    refine ⟨by decide, ?_⟩
    have hback : LeavesOut [['a'], ['.', '.'], ['.', '.'], ['c'], ['.']] [['.', '.'], ['c'], ['.']] :=
      .back [] _ ⟨by simp, by simp, by simp, by simp⟩
    have hdot : LeavesOut [['.', '.'], ['c'], ['.']] [['.', '.'], ['c']] := .blank [['.', '.'], ['c']] [] (.inr rfl)
    have hslash : LeavesOut [['.', '.'], [], ['c']] [['.', '.'], ['c']] := .blank [['.', '.']] [['c']] (.inl rfl)
    have hsplit : "a/../../c/.".toList.splitOn '/' = [['a'], ['.', '.'], ['.', '.'], ['c'], ['.']] := by decide +kernel
    have hsplit' : "..//c".toList.splitOn '/' = [['.', '.'], [], ['c']] := by decide +kernel
    rw [hsplit, hsplit']
    exact .trans _ _ _ (.trans _ _ _ (.rel _ _ hback) (.rel _ _ hdot)) (.symm _ _ (.rel _ _ hslash))
  obtain ⟨p, hrequire, -, -, -, hslashes, hagain, hother⟩ :=
    require_givesNormalForm (t := "a/../../c/.".toList) hcwd (by simp) (by simp)
  have hp : (Argument.text "a/../../c/.".toList).require "path" twoSlashes.cwd = .ok (ofText "//c".toList) := by
    decide +kernel
  obtain rfl : ofText "//c".toList = p := Except.ok.inj (hp.symm.trans (hrequire "path"))
  refine ⟨hcwd, hsame, hp, hslashes.mp (by decide +kernel), ?_, (hother _ (by simp) (by simp) hsame).2⟩
  exact (hagain "path" Path.root).1

end Argument

end Counterpart
