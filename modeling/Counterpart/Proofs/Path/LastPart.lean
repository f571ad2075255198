import Counterpart.ExtensionTable
import Counterpart.Proofs.Path.Normal

/-!
# The last part of a path

The role of a file depends on the last part of its path alone.  That is the last component, which stays the same when
the path is made absolute.

* `lastPart_eq`: the last part is the last component;
* `role_absolute`: a file has the same role under its absolute path;
* `role_of_noComponents`: a path without components is that of no header and no source.
-/

namespace Counterpart

namespace Path

variable {p : Path} {cs : List Component} {c : Component}

lemma afterLast_slash (t : Text) : Text.afterLast '/' ('/' :: t) = Text.afterLast '/' t := by
  obtain ⟨piece, pieces, hpieces⟩ := List.exists_cons_of_ne_nil (List.splitOn_ne_nil '/' t)
  unfold Text.afterLast
  rw [splitOn_slash, hpieces]
  rfl

lemma afterLast_of_notMem {t : Text} (h : '/' ∉ t) : Text.afterLast '/' t = t := by
  unfold Text.afterLast
  rw [List.splitOn_eq_singleton h]
  rfl

lemma afterLast_anchor (anchor : Anchor) (t : Text) : Text.afterLast '/' (anchor.text ++ t) = Text.afterLast '/' t := by
  cases anchor with
  | working => rfl
  | root => exact afterLast_slash t
  | doubleRoot => exact (afterLast_slash ('/' :: t)).trans (afterLast_slash t)

/-- The last part of a path is its last component. -/
lemma lastPart_eq (h : p.components = cs ++ [c]) : p.lastPart = c.val := by
  have hne : p.components ≠ [] := by simp [h]
  unfold lastPart text
  rw [if_neg fun hdot => hne hdot.2, afterLast_anchor, Text.afterLast, splitOn_componentsText hne, h]
  simp

/-! ## Absolute paths -/

lemma components_normal (h : p.components = cs ++ [c]) (hc : c ≠ .up) :
    ∃ ds, p.normal.components = ds ++ [c] := by
  have hstep (done : List Component) : climb p.anchor done c = c :: done := by
    unfold climb
    rw [if_pos hc]
  unfold normal
  dsimp only
  rw [h, List.foldl_append, List.foldl_cons, List.foldl_nil, hstep, List.reverse_cons]
  exact ⟨_, rfl⟩

lemma components_join (h : p.components = cs ++ [c]) (cwd : Path) : ∃ ds, (cwd.join p).components = ds ++ [c] := by
  unfold join
  split
  · exact ⟨cs, h⟩
  · exact ⟨cwd.components ++ cs, by rw [h, List.append_assoc]⟩

/-- A path ends with the same component when it is made absolute, unless that is the way up. -/
lemma lastPart_absolute (h : p.components = cs ++ [c]) (hc : c ≠ .up) (cwd : Path) :
    (p.absolute cwd).lastPart = p.lastPart := by
  obtain ⟨ds, hds⟩ := components_join h cwd
  obtain ⟨es, hes⟩ := components_normal hds hc
  rw [lastPart_eq h]
  exact lastPart_eq hes

/-! ## Roles -/

lemma role_eq (table : ExtensionTable) (p : Path) : table.role p.text = (table.roleExtension p.lastPart).1 := rfl

/-- A file has the same role under its absolute path. -/
lemma role_absolute (table : ExtensionTable) (h : p.components = cs ++ [c]) (hc : c ≠ .up) (cwd : Path) :
    table.role (p.absolute cwd).text = table.role p.text := by
  rw [role_eq, role_eq, lastPart_absolute h hc]

/-- A name of one character at most leaves nothing before an extension. -/
lemma longest?_eq_none {name : Text} {extensions : List Text} (hname : (Text.lower name).length ≤ 1)
    (h : ∀ extension ∈ extensions, extension ≠ []) : ExtensionTable.longest? name extensions = none := by
  have hnone : extensions.filter (ExtensionTable.endsWithin (Text.lower name)) = [] := by
    rw [List.filter_eq_nil_iff]
    intro extension hextension hends
    unfold ExtensionTable.endsWithin at hends
    rw [Bool.and_eq_true, decide_eq_true_eq] at hends
    have hlength := List.length_pos_iff.mpr (h extension hextension)
    omega
  unfold ExtensionTable.longest?
  rw [hnone]
  rfl

/-- A path without components is that of no header and no source. -/
lemma role_of_noComponents {table : ExtensionTable} (hheaders : ∀ extension ∈ table.headers, extension ≠ [])
    (hsources : ∀ extension ∈ table.sources, extension ≠ []) (h : p.components = []) :
    table.role p.text = .other := by
  have hname : (Text.lower p.lastPart).length ≤ 1 := by
    obtain ⟨anchor, components⟩ := p
    obtain rfl : components = [] := h
    cases anchor <;> decide
  rw [role_eq]
  unfold ExtensionTable.roleExtension
  rw [longest?_eq_none hname hheaders, longest?_eq_none hname hsources]

end Path

end Counterpart
