import Counterpart.Proofs.Path.Normal

/-!
# Paths below others

What is joined to a path lies below it, and what lies below one child of a path does not lie below another.
-/

namespace Counterpart.Path

/-- A path is another one or lies below it. -/
def IsAtOrBelow (p base : Path) : Prop := ∃ cs, p = { base with components := base.components ++ cs }

/-- A path lies below another one. -/
def IsBelow (p base : Path) : Prop := ∃ c, p.IsAtOrBelow (base.child c)

lemma isBelow_of_components {base : Path} {cs : List Component} (h : cs ≠ []) :
    IsBelow { base with components := base.components ++ cs } base := by
  obtain ⟨c, rest, rfl⟩ := List.exists_cons_of_ne_nil h
  exact ⟨c, rest, by simp [child]⟩

/-- Nothing lies below two children of one path. -/
lemma eq_of_isAtOrBelow_child {p base : Path} {c d : Component} (hc : p.IsAtOrBelow (base.child c))
    (hd : p.IsAtOrBelow (base.child d)) : c = d := by
  obtain ⟨cs, rfl⟩ := hc
  obtain ⟨ds, hds⟩ := hd
  have hcomponents := congrArg Path.components hds
  simp only [child, List.append_assoc, List.singleton_append, List.append_cancel_left_eq] at hcomponents
  exact (List.cons.inj hcomponents).1

end Counterpart.Path
