import Counterpart.Proofs.FileSystem.Tree
import Mathlib.Data.List.Nodup

/-!
# File systems that are made entry by entry

What is put into a file system leaves it well-formed, so that every file system that is made entry by entry is: no
location comes up twice, whatever is put where, and none is written with a way up.
-/

namespace Counterpart.FileSystem

variable {fs : FileSystem} {l : Location}

lemma wellFormed_empty : empty.WellFormed where
  nodup := List.nodup_singleton _
  up_notMem := by
    intro entry hentry
    rw [List.mem_singleton.mp hentry]
    exact List.not_mem_nil

/-- Where nothing is found, nothing is. -/
lemma notMem_of_node?_eq_none (h : fs.node? l = none) : l ∉ fs.nodes.map (·.1) := by
  intro hmem
  obtain ⟨entry, hentry, rfl⟩ := List.mem_map.mp hmem
  have hne := List.lookup_eq_none_iff.mp h entry hentry
  simp at hne

/-- An entry at a place where nothing is found. -/
lemma WellFormed.concat (h : fs.WellFormed) (hnone : fs.node? l = none) (hup : Component.up ∉ l) (node : Node) :
    WellFormed { fs with nodes := fs.nodes ++ [(l, node)] } := by
  refine ⟨?_, fun entry hentry => ?_⟩
  · show ((fs.nodes ++ [(l, node)]).map (·.1)).Nodup
    rw [List.map_append, List.map_singleton, ← List.concat_eq_append]
    exact h.nodup.concat (notMem_of_node?_eq_none hnone)
  · rcases List.mem_append.mp hentry with hentry | hentry
    · exact h.up_notMem entry hentry
    · rw [List.mem_singleton.mp hentry]
      exact hup

lemma WellFormed.ensureDirectory (h : fs.WellFormed) (hup : Component.up ∉ l) :
    (fs.ensureDirectory l).WellFormed := by
  unfold FileSystem.ensureDirectory
  split
  · exact h
  · next hnone => exact h.concat (Option.not_isSome_iff_eq_none.mp hnone) hup _

lemma WellFormed.ensureAbove (h : fs.WellFormed) (hup : Component.up ∉ l) : (fs.ensureAbove l).WellFormed := by
  unfold FileSystem.ensureAbove
  induction List.range l.length generalizing fs with
  | nil => exact h
  | cons n rest ih =>
    rw [List.foldl_cons]
    exact ih (h.ensureDirectory fun hmem => hup (List.mem_of_mem_take hmem))

/-- Some of the entries. -/
lemma WellFormed.filter (h : fs.WellFormed) (p : Location × Node → Bool) : 
    WellFormed { fs with nodes := fs.nodes.filter p } :=
  ⟨h.nodup.sublist (List.filter_sublist.map _), fun entry hentry => h.up_notMem entry (List.mem_of_mem_filter hentry)⟩

/-- Another node at a place. -/
lemma WellFormed.replace (h : fs.WellFormed) (l : Location) (node : Node) :
    WellFormed { fs with nodes := fs.nodes.map fun entry => if entry.1 = l then (entry.1, node) else entry } := by
  have hplace : ∀ entry : Location × Node, (if entry.1 = l then (entry.1, node) else entry).1 = entry.1 := by
    intro entry
    split <;> rfl
  refine ⟨?_, fun entry hentry => ?_⟩
  · dsimp only
    rw [List.map_map, show ((·.1) ∘ fun entry : Location × Node => if entry.1 = l then (entry.1, node) else entry)
      = (·.1) from funext hplace]
    exact h.nodup
  · obtain ⟨entry', hentry', rfl⟩ := List.mem_map.mp hentry
    rw [hplace]
    exact h.up_notMem entry' hentry'

/-- What is put into a well-formed file system leaves it well-formed. -/
theorem WellFormed.put (h : fs.WellFormed) (hup : Component.up ∉ l) (node : Node) : (fs.put l node).WellFormed := by
  have habove := h.ensureAbove hup
  unfold FileSystem.put
  dsimp only
  split
  · next hnone => exact habove.concat hnone hup node
  · next old _ =>
    split
    · exact habove.replace l node
    · exact (habove.filter _).replace l node

end Counterpart.FileSystem
