import Counterpart.FileSystem.Access
import Counterpart.Proofs.Path.Characters

/-!
# Looks at a file system

How a look at a file system can fail.

* `isFault_of_resolveFrom`: a way fails because there is nothing, or because a look on it is refused;
* `Refuses` and `leadsTo_eq_error_iff`: only where a look is refused it cannot be told what a path leads to;
* `not_isRefused`: a file system without entries that refuse looks, and without limits for names and paths, refuses
  none;
* `list_eq_nul_iff` and `files_ne_nul`: a path without a NUL, and no other one, can at least be asked for.
-/

namespace Counterpart.FileSystem

variable {fs : FileSystem} {cwd p : Path}

/-- A file system that refuses no look: none of its entries does, and no name and no path is too long for it. -/
def RefusesNoLook (fs : FileSystem) : Prop :=
  (∀ entry ∈ fs.nodes, entry.2.statDenied = false) ∧ fs.greatestName = none ∧ fs.greatestPath = none

lemma mem_of_node? {l : Location} {node : Node} (h : fs.node? l = some node) : (l, node) ∈ fs.nodes := by
  obtain ⟨before, behind, hnodes, -⟩ := List.lookup_eq_some_iff.mp h
  rw [hnodes]
  exact List.mem_append_right _ List.mem_cons_self

/-! ## What a look gives -/

/-- The components of the way to a path, seen from a working directory. -/
def way (cwd p : Path) : List Component := (cwd.join p).components

lemma resolve_eq (follow : Bool) :
    fs.resolve cwd follow p =
      if (way cwd p).any (fun c => c.val.contains '\x00') then .error .nul
      else if exceeds fs.greatestPath p.text then .error (.refused .nameTooLong p)
      else (fs.resolveFrom follow greatestLinks [] (way cwd p)).mapError (.refused · p) := rfl

/-- A look that fails has met a NUL or a fault. -/
lemma look_eq_error {e : LookError} (h : fs.look cwd p = .error e) :
    (e = .nul ∧ ∃ c ∈ way cwd p, '\x00' ∈ c.val) ∨
      ∃ fault, e = .refused fault p ∧
        (fault = .missing ∨ (fault = .nameTooLong ∧ exceeds fs.greatestPath p.text = true) ∨
          fs.resolveFrom true greatestLinks [] (way cwd p) = .error fault) := by
  unfold look at h
  rw [resolve_eq] at h
  by_cases hnul : ((way cwd p).any fun c => c.val.contains '\x00') = true
  · rw [if_pos hnul] at h
    refine .inl ⟨(Except.error.inj h).symm, ?_⟩
    obtain ⟨c, hc, hmem⟩ := List.any_eq_true.mp hnul
    exact ⟨c, hc, by simpa using hmem⟩
  · rw [if_neg hnul] at h
    by_cases hlong : exceeds fs.greatestPath p.text = true
    · rw [if_pos hlong] at h
      exact .inr ⟨.nameTooLong, (Except.error.inj h).symm, .inr (.inl ⟨rfl, hlong⟩)⟩
    · rw [if_neg hlong] at h
      cases hresolve : fs.resolveFrom true greatestLinks [] (way cwd p) with
      | error fault =>
        rw [hresolve] at h
        exact .inr ⟨fault, (Except.error.inj h).symm, .inr (.inr rfl)⟩
      | ok l =>
        rw [hresolve] at h
        simp only [Except.mapError, bind, Except.bind] at h
        split at h
        · exact absurd h (by simp [pure, Except.pure])
        · exact .inr ⟨.missing, (Except.error.inj h).symm, .inl rfl⟩

/-- A look that succeeds gives what is found where the way leads. -/
lemma look_eq_ok {l : Location} {node : Node} (h : fs.look cwd p = .ok (l, node)) :
    ((way cwd p).any fun c => c.val.contains '\x00') = false ∧
      fs.resolveFrom true greatestLinks [] (way cwd p) = .ok l ∧ fs.node? l = some node := by
  unfold look at h
  rw [resolve_eq] at h
  by_cases hnul : ((way cwd p).any fun c => c.val.contains '\x00') = true
  · rw [if_pos hnul] at h
    exact absurd h (by simp [bind, Except.bind])
  · rw [if_neg hnul] at h
    refine ⟨eq_false_of_ne_true hnul, ?_⟩
    have hlong : ¬ exceeds fs.greatestPath p.text = true := by
      intro hlong
      rw [if_pos hlong] at h
      exact absurd h (by simp [bind, Except.bind])
    rw [if_neg hlong] at h
    cases hresolve : fs.resolveFrom true greatestLinks [] (way cwd p) with
    | error fault =>
      rw [hresolve] at h
      exact absurd h (by simp [bind, Except.bind, Except.mapError])
    | ok l' =>
      rw [hresolve] at h
      simp only [Except.mapError, bind, Except.bind] at h
      split at h
      · next node' hnode =>
        simp only [pure, Except.pure, Except.ok.injEq, Prod.mk.injEq] at h
        obtain ⟨rfl, rfl⟩ := h
        exact ⟨rfl, hnode⟩
      · exact absurd h (by simp [throw, throwThe, MonadExceptOf.throw])

/-- A directory that can be listed gives the children of the place that it leads to. -/
lemma list_eq_ok_iff {children : List (Component × Node)} : fs.list cwd p = .ok children ↔
    ∃ l node, fs.look cwd p = .ok (l, node) ∧ node.entry = .directory ∧ node.denied = false ∧
      children = fs.children l := by
  unfold list
  cases hlook : fs.look cwd p with
  | error e => simp [bind, Except.bind]
  | ok found =>
    obtain ⟨l, node⟩ := found
    simp only [bind, Except.bind]
    constructor
    · intro h
      split at h
      · exact absurd h (by simp [throw, throwThe, MonadExceptOf.throw])
      · next hdirectory =>
        split at h
        · exact absurd h (by simp [throw, throwThe, MonadExceptOf.throw])
        · next hdenied =>
          exact ⟨l, node, rfl, not_not.mp hdirectory, eq_false_of_ne_true hdenied, (Except.ok.inj h).symm⟩
    · rintro ⟨l', node', heq, hdirectory, hdenied, rfl⟩
      obtain ⟨rfl, rfl⟩ := Prod.mk.inj (Except.ok.inj heq)
      rw [if_neg (not_not.mpr hdirectory), if_neg (ne_true_of_eq_false hdenied)]
      rfl

/-! ## Faults -/

/-- Whether a fault only says that there is nothing. -/
def IsAbsence (fault : Fault) : Prop := fault = .missing ∨ fault = .notDirectory ∨ fault = .tooManyLinks

/-- A fault of a file system says that there is nothing, or that an entry refuses the look, or that a name is too
long. -/
def IsFault (fs : FileSystem) (fault : Fault) : Prop :=
  IsAbsence fault ∨ (fault = .denied ∧ ∃ entry ∈ fs.nodes, entry.2.statDenied = true) ∨
    (fault = .nameTooLong ∧ fs.greatestName ≠ none)

lemma ne_none_of_exceeds {greatest : Option Nat} {t : Text} (h : exceeds greatest t = true) : greatest ≠ none := by
  rintro rfl
  exact nomatch h

lemma isFault_of_resolveWith {follow : Bool} {onLink : Location → List Component → Except Fault Location}
    (honLink : ∀ here rest fault, onLink here rest = .error fault → fs.IsFault fault) {here : Location}
    {cs : List Component} {fault : Fault} (hfault : fs.resolveWith follow onLink here cs = .error fault) :
    fs.IsFault fault := by
  induction cs generalizing here with
  | nil => simp [resolveWith] at hfault
  | cons c rest ih =>
    unfold resolveWith at hfault
    split at hfault
    · exact .inl (.inl (Except.error.inj hfault).symm)
    · split at hfault
      · exact .inl (.inr (.inl (Except.error.inj hfault).symm))
      · split at hfault
        · exact ih hfault
        · split at hfault
          · next hlong => exact .inr (.inr ⟨(Except.error.inj hfault).symm, ne_none_of_exceeds hlong⟩)
          · dsimp only at hfault
            split at hfault
            · exact .inl (.inl (Except.error.inj hfault).symm)
            · next node hnode =>
              split at hfault
              · next hdenied => exact .inr (.inl ⟨(Except.error.inj hfault).symm, _, mem_of_node? hnode, hdenied⟩)
              · split at hfault
                · split at hfault
                  · exact absurd hfault (by simp)
                  · exact honLink _ _ _ hfault
                · exact ih hfault

/-- A way fails because there is nothing, or because a look on it is refused. -/
lemma isFault_of_resolveFrom {follow : Bool} {links : Nat} {here : Location} {cs : List Component} {fault : Fault}
    (hfault : fs.resolveFrom follow links here cs = .error fault) : fs.IsFault fault := by
  induction links generalizing here cs fault with
  | zero =>
    exact isFault_of_resolveWith (fun _ _ _ hlast => .inl (.inr (.inr (Except.error.inj hlast).symm))) hfault
  | succ links ih => exact isFault_of_resolveWith (fun _ _ _ hrest => ih hrest) hfault

/-- A look at a path is refused, so that nobody can say what is there: it is denied, or something on the way is too
long. -/
def Refuses (fs : FileSystem) (cwd p : Path) (fault : Fault) : Prop :=
  fs.look cwd p = .error (.refused fault p) ∧ (fault = .denied ∨ fault = .nameTooLong)

/-- A look at a path is refused, for whatever reason. -/
def IsRefused (fs : FileSystem) (cwd p : Path) : Prop := ∃ fault, fs.Refuses cwd p fault

/-- A fault of a look is one of absence, or else refuses the look. -/
lemma isAbsence_or_refused {fault : Fault} (h : fs.look cwd p = .error (.refused fault p)) :
    IsAbsence fault ∨ fault = .denied ∨ fault = .nameTooLong := by
  rcases look_eq_error h with ⟨hnul, -⟩ | ⟨fault', hfault, hway⟩
  · exact nomatch hnul
  · obtain ⟨rfl, -⟩ := LookError.refused.inj hfault
    rcases hway with rfl | ⟨rfl, -⟩ | hresolve
    · exact .inl (.inl rfl)
    · exact .inr (.inr rfl)
    · exact (isFault_of_resolveFrom hresolve).imp_right (Or.imp And.left And.left)

lemma saysNothingThere_of_isAbsence {fault : Fault} (h : IsAbsence fault) :
    saysNothingThere (.refused fault p) = true := by
  rcases h with rfl | rfl | rfl <;> rfl

/-- Only where a look is refused it cannot be told what a path leads to. -/
lemma leadsTo_eq_error_iff {test : Entry → Bool} {e : LookError} :
    leadsTo test fs cwd p = .error e ↔ ∃ fault, fs.Refuses cwd p fault ∧ e = .refused fault p := by
  unfold leadsTo Refuses
  cases hlook : fs.look cwd p with
  | ok found => simp
  | error e' =>
    dsimp only
    rcases look_eq_error hlook with ⟨rfl, -⟩ | ⟨fault, rfl, -⟩
    · simp [saysNothingThere]
    · rcases isAbsence_or_refused hlook with habsence | hrefused
      · rw [if_pos (saysNothingThere_of_isAbsence habsence)]
        rcases habsence with rfl | rfl | rfl <;> simp
      · rw [if_neg (by rcases hrefused with rfl | rfl <;> simp [saysNothingThere])]
        constructor
        · intro h
          exact ⟨fault, ⟨rfl, hrefused⟩, (Except.error.inj h).symm⟩
        · rintro ⟨fault', ⟨hfault, -⟩, rfl⟩
          exact congrArg Except.error (Except.error.inj hfault)

/-- Where a look is not refused it can be told what a path leads to. -/
lemma leadsTo_eq_ok (h : ¬ fs.IsRefused cwd p) (test : Entry → Bool) : ∃ b, leadsTo test fs cwd p = .ok b := by
  cases hleads : leadsTo test fs cwd p with
  | ok b => exact ⟨b, rfl⟩
  | error e =>
    obtain ⟨fault, hfault, -⟩ := leadsTo_eq_error_iff.mp hleads
    exact absurd ⟨fault, hfault⟩ h

/-- A file system that refuses no look refuses none at any path. -/
lemma not_isRefused (h : fs.RefusesNoLook) (cwd p : Path) : ¬ fs.IsRefused cwd p := by
  obtain ⟨hdenied, hname, hpath⟩ := h
  rintro ⟨fault, hlook, hrefused⟩
  rcases look_eq_error hlook with ⟨hnul, -⟩ | ⟨fault', hfault, hway⟩
  · exact nomatch hnul
  · obtain ⟨rfl, -⟩ := LookError.refused.inj hfault
    rcases hway with rfl | ⟨rfl, hlong⟩ | hresolve
    · simp at hrefused
    · exact ne_none_of_exceeds hlong hpath
    · rcases isFault_of_resolveFrom hresolve with habsence | ⟨rfl, entry, hentry, hstat⟩ | ⟨rfl, hlong⟩
      · rcases habsence with rfl | rfl | rfl <;> simp at hrefused
      · exact absurd ((hdenied entry hentry).symm.trans hstat) (by simp)
      · exact hlong hname

/-! ## Paths without a NUL -/

lemma look_eq_nul_iff (fs : FileSystem) : fs.look cwd p = .error .nul ↔ ¬ (cwd.join p).IsNulFree := by
  constructor
  · intro h hfree
    rcases look_eq_error h with ⟨-, c, hc, hmem⟩ | ⟨fault, hfault, -⟩
    · exact hfree c hc hmem
    · exact absurd hfault (by simp)
  · intro h
    have hany : ((way cwd p).any fun c => c.val.contains '\x00') = true := by
      simpa [Path.IsNulFree, way] using h
    unfold look
    rw [resolve_eq, if_pos hany]
    rfl

lemma list_eq_nul_iff (fs : FileSystem) : fs.list cwd p = .error .nul ↔ ¬ (cwd.join p).IsNulFree := by
  rw [← look_eq_nul_iff fs]
  unfold list
  cases fs.look cwd p with
  | error e => simp [bind, Except.bind]
  | ok found =>
    simp only [bind, Except.bind]
    split
    · simp [throw, throwThe, MonadExceptOf.throw]
    · split <;> simp [pure, Except.pure, throw, throwThe, MonadExceptOf.throw]

lemma list_ne_nul (hcwd : cwd.IsNulFree) (hp : p.IsNulFree) : fs.list cwd p ≠ .error .nul :=
  fun h => (list_eq_nul_iff fs).1 h (hcwd.join hp)

lemma files_ne_nul (hcwd : cwd.IsNulFree) (hp : p.IsNulFree) : fs.files cwd p ≠ .error .nul := by
  intro h
  unfold files at h
  cases hlist : fs.list cwd p with
  | error e =>
    simp only [hlist, bind, Except.bind] at h
    exact list_ne_nul hcwd hp (hlist.trans (congrArg _ (Except.error.inj h)))
  | ok children => simp [hlist, bind, Except.bind, pure, Except.pure] at h

end Counterpart.FileSystem
