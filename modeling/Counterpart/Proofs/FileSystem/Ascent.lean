import Counterpart.Proofs.FileSystem.Listing

/-!
# Ways back

Double dots only lead back out of a directory, and to a directory: whatever a way comes to lies below directories, also
when it has followed links.

* `LiesInDirectories`: what a way keeps;
* `isDirectory_of_endsWithUp`: a path that ends with double dots leads to a directory;
* `isNulFree_of_leadsTo` and `ne_up_of_isFile`: what is known of a path that leads to a file.
-/

namespace Counterpart.FileSystem

variable {fs : FileSystem} {cwd p : Path}

/-- There is a directory at a location. -/
def HasDirectory (fs : FileSystem) (l : Location) : Prop := ∃ node, fs.node? l = some node ∧ node.entry = .directory

/-- All locations above a location are directories. -/
def LiesInDirectories (fs : FileSystem) (l : Location) : Prop := ∀ m, m <+: l → m ≠ l → fs.HasDirectory m

lemma liesInDirectories_nil (fs : FileSystem) : fs.LiesInDirectories [] :=
  fun _ hm hne => absurd (List.prefix_nil.mp hm) hne

lemma LiesInDirectories.dropLast {l : Location} (h : fs.LiesInDirectories l) : fs.LiesInDirectories l.dropLast := by
  intro m hm hne
  refine h m (hm.trans (List.dropLast_prefix l)) fun heq => hne ?_
  subst heq
  exact hm.eq_of_length_le (List.dropLast_prefix m).length_le

lemma LiesInDirectories.append {l : Location} (h : fs.LiesInDirectories l) (hl : fs.HasDirectory l) (c : Component) :
    fs.LiesInDirectories (l ++ [c]) := by
  intro m hm hne
  rcases List.prefix_concat_iff.mp hm with rfl | hm
  · exact absurd rfl hne
  · by_cases heq : m = l
    · rwa [heq]
    · exact h m hm heq

/-- A way only goes on from a directory. -/
lemma hasDirectory_of_resolveWith {onLink : Location → List Component → Except Fault Location} {follow : Bool}
    {here l : Location} {c : Component} {rest : List Component}
    (h : fs.resolveWith follow onLink here (c :: rest) = .ok l) : fs.HasDirectory here := by
  unfold resolveWith at h
  split at h
  · exact nomatch h
  · next node hnode =>
    split at h
    · exact nomatch h
    · next hdirectory => exact ⟨node, hnode, not_not.mp hdirectory⟩

/-- A way that ends with double dots leads to a directory, if it begins at a place in directories. -/
def EndsInDirectories (fs : FileSystem) (way : Location → List Component → Except Fault Location) : Prop :=
  ∀ here cs l, fs.LiesInDirectories here → way here (cs ++ [.up]) = .ok l → fs.HasDirectory l

lemma endsInDirectories_resolveWith {onLink : Location → List Component → Except Fault Location}
    (honLink : fs.EndsInDirectories onLink) : fs.EndsInDirectories (fs.resolveWith true onLink) := by
  intro here cs l hhere h
  induction cs generalizing here with
  | nil =>
    obtain ⟨node, hnode, hentry⟩ := hasDirectory_of_resolveWith h
    have hback : here.dropLast = l := by simpa [resolveWith, hnode, hentry] using h
    rw [← hback]
    by_cases hroot : here.dropLast = here
    · rw [hroot]
      exact ⟨node, hnode, hentry⟩
    · exact hhere here.dropLast (List.dropLast_prefix here) hroot
  | cons c rest ih =>
    rw [List.cons_append] at h
    have hdirectory := hasDirectory_of_resolveWith h
    rcases resolveWith_cons fs onLink here c with
      ⟨next, hnext, hstep⟩ | ⟨base, target, hbase, hlink⟩ | ⟨fault, hfault⟩
    · rw [hstep] at h
      refine ih next ?_ h
      rcases hnext with rfl | ⟨rfl, -⟩
      · exact hhere.dropLast
      · exact hhere.append hdirectory c
    · -- the link is followed with the double dots behind it
      rw [hlink, ← List.append_assoc] at h
      refine honLink base _ l ?_ h
      rcases hbase with rfl | rfl
      · exact liesInDirectories_nil fs
      · exact hhere
    · rw [hfault] at h
      exact absurd h (by simp)

lemma endsInDirectories_resolveFrom (links : Nat) : fs.EndsInDirectories (fs.resolveFrom true links) := by
  induction links with
  | zero => exact endsInDirectories_resolveWith fun _ _ _ _ h => nomatch h
  | succ links ih => exact endsInDirectories_resolveWith ih

/-- A path that ends with double dots leads to a directory. -/
lemma isDirectory_of_endsWithUp {cs : List Component} {l : Location} {node : Node} (hway : way cwd p = cs ++ [.up])
    (h : fs.look cwd p = .ok (l, node)) : node.entry = .directory := by
  obtain ⟨-, hresolve, hnode⟩ := look_eq_ok h
  rw [hway] at hresolve
  obtain ⟨node', hnode', hdirectory⟩ :=
    endsInDirectories_resolveFrom greatestLinks [] cs l (liesInDirectories_nil fs) hresolve
  rwa [Option.some.inj (hnode.symm.trans hnode')]

/-! ## Files -/

lemma exists_look_of_leadsTo {test : Entry → Bool} (h : leadsTo test fs cwd p = .ok true) :
    ∃ l node, fs.look cwd p = .ok (l, node) ∧ test node.entry = true := by
  unfold leadsTo at h
  split at h
  · next l node hlook => exact ⟨l, node, hlook, Except.ok.inj h⟩
  · split at h
    · exact nomatch h
    · exact nomatch h

/-- What leads to anything holds no NUL. -/
lemma isNulFree_of_leadsTo {test : Entry → Bool} (h : leadsTo test fs cwd p = .ok true) : p.IsNulFree := by
  obtain ⟨l, node, hlook, -⟩ := exists_look_of_leadsTo h
  obtain ⟨hnul, -⟩ := look_eq_ok hlook
  intro c hc hmem
  have hway : c ∈ way cwd p := by
    unfold way Path.join
    split
    · exact hc
    · exact List.mem_append_right _ hc
  have hany : ((way cwd p).any fun c => c.val.contains '\x00') = true :=
    List.any_eq_true.mpr ⟨c, hway, by simpa using hmem⟩
  exact absurd (hany.symm.trans hnul) (by simp)

/-- A path that leads to a file does not end with double dots. -/
lemma ne_up_of_isFile (h : fs.isFile cwd p = .ok true) {cs : List Component} {c : Component}
    (hcs : p.components = cs ++ [c]) : c ≠ .up := by
  rintro rfl
  obtain ⟨l, node, hlook, hfile⟩ := exists_look_of_leadsTo h
  have hway : ∃ ds, way cwd p = ds ++ [.up] := by
    unfold way Path.join
    split
    · exact ⟨cs, hcs⟩
    · exact ⟨cwd.components ++ cs, by rw [hcs, List.append_assoc]⟩
  obtain ⟨ds, hds⟩ := hway
  rw [isDirectory_of_endsWithUp hds hlook] at hfile
  exact nomatch hfile

end Counterpart.FileSystem
