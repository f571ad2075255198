import Counterpart.Text.Basic
import Mathlib.Data.List.Sort
import Mathlib.Tactic.Lemma

/-!
# Sorted sets of texts

A sorted set is strictly increasing, so it is determined by its members (`sortedSet_eq_iff`).
-/

namespace Counterpart.Text

variable {t : Text} {ts us : List Text}

lemma pairwise_insertSorted (h : ts.Pairwise (· < ·)) : (insertSorted t ts).Pairwise (· < ·) := by
  induction ts with
  | nil => exact List.pairwise_singleton _ t
  | cons u rest ih =>
    obtain ⟨hu, hrest⟩ := List.pairwise_cons.mp h
    unfold insertSorted
    split
    · exact h
    · next hne =>
      split
      · next hlt =>
        refine List.pairwise_cons.mpr ⟨fun v hv => ?_, h⟩
        rcases List.mem_cons.mp hv with rfl | hv
        · exact hlt
        · exact List.lt_trans hlt (hu v hv)
      · next hnot =>
        have hlt : u < t := ((Std.lt_trichotomy t u).resolve_left hnot).resolve_left hne
        refine List.pairwise_cons.mpr ⟨fun v hv => ?_, ih hrest⟩
        rcases mem_insertSorted.mp hv with rfl | hv
        · exact hlt
        · exact hu v hv

lemma pairwise_sortedSet (ts : List Text) : (sortedSet ts).Pairwise (· < ·) := by
  induction ts with
  | nil => exact .nil
  | cons t rest ih => exact pairwise_insertSorted ih

/-- Lists give the same set exactly if they have the same members. -/
lemma sortedSet_eq_iff : sortedSet ts = sortedSet us ↔ ∀ t, t ∈ ts ↔ t ∈ us := by
  constructor
  · intro h t
    rw [← mem_sortedSet, h, mem_sortedSet]
  · intro h
    refine (pairwise_sortedSet ts).eq_of_mem_iff (pairwise_sortedSet us) fun t => ?_
    rw [mem_sortedSet, mem_sortedSet, h]

/-- The set of a set's members is the set. -/
lemma sortedSet_eq_of_mem_iff (h : ∀ t, t ∈ ts ↔ t ∈ sortedSet us) : sortedSet ts = sortedSet us :=
  sortedSet_eq_iff.mpr fun t => (h t).trans mem_sortedSet

end Counterpart.Text
