import Counterpart.Framework
import Counterpart.Proofs.Path.Normal

/-!
# The framework of a directory

A directory is divided at the last `Sources` on its path, and put together again from the parts.

* `splitAtSources_eq_some_iff`: what is divided has no other `Sources` behind;
* `ofDirectory?_eq_some_iff`: the framework of a directory, told by the components of its path;
* `ofDirectory_undoesJoin`: the framework of a directory is the one from which it is joined.
-/

namespace Counterpart.Framework

variable {cs before behind : List Component} {directory : Path} {framework : Framework}

/-! ## The last `Sources` -/

lemma splitAtSources_eq_none_iff : splitAtSources cs = none ↔ sourcesFolder ∉ cs := by
  induction cs with
  | nil => simp [splitAtSources]
  | cons c rest ih =>
    rw [splitAtSources, List.mem_cons, not_or, ← ih]
    cases splitAtSources rest with
    | some parts => simp
    | none => simp [eq_comm]

lemma splitAtSources_append (before : List Component) (h : sourcesFolder ∉ behind) :
    splitAtSources (before ++ sourcesFolder :: behind) = some (before, behind) := by
  induction before with
  | nil => rw [List.nil_append, splitAtSources, splitAtSources_eq_none_iff.mpr h, if_pos rfl]
  | cons c before ih => rw [List.cons_append, splitAtSources, ih]

/-- Components are divided at a `Sources` with no other one behind. -/
lemma splitAtSources_eq_some_iff :
    splitAtSources cs = some (before, behind) ↔ cs = before ++ sourcesFolder :: behind ∧ sourcesFolder ∉ behind := by
  constructor
  · intro h
    induction cs generalizing before with
    | nil => exact nomatch h
    | cons c rest ih =>
      rw [splitAtSources] at h
      split at h
      · next before' behind' hrest =>
        obtain ⟨rfl, rfl⟩ := Prod.mk.inj (Option.some.inj h)
        obtain ⟨rfl, hbehind⟩ := ih hrest
        exact ⟨rfl, hbehind⟩
      · next hnone =>
        split at h
        · next hsources =>
          obtain ⟨rfl, rfl⟩ := Prod.mk.inj (Option.some.inj h)
          exact ⟨by rw [hsources, List.nil_append], splitAtSources_eq_none_iff.mp hnone⟩
        · exact nomatch h
  · rintro ⟨rfl, hbehind⟩
    exact splitAtSources_append before hbehind

/-! ## Places -/

/-- The folder behind `Sources` without a leading framework name. -/
def withoutName (name : Component) : List Component → List Component
  | [] => []
  | c :: rest => if c = name then rest else c :: rest

lemma withoutName_eq_or (name : Component) (behind : List Component) :
    behind = withoutName name behind ∨ behind = name :: withoutName name behind := by
  cases behind with
  | nil => exact .inl rfl
  | cons c rest =>
    rw [withoutName]
    split
    · next hname => exact .inr (by rw [hname])
    · exact .inl rfl

lemma mem_of_mem_withoutName {name c : Component} (h : c ∈ withoutName name behind) : c ∈ behind := by
  rcases withoutName_eq_or name behind with hsame | hcons
  · rwa [hsame]
  · rw [hcons]
    exact List.mem_cons_of_mem name h

/-- The framework whose name stands behind some components, and in it the folder with others behind `Sources`. -/
def place (anchor : Anchor) (above : List Component) (name : Component) (behind : List Component) : Framework where
  path := ⟨anchor, above ++ [name]⟩
  name := name.val
  folder := Path.componentsText (withoutName name behind)
  sourceFolder := Path.componentsText behind

lemma ofDirectory?_eq_none_iff :
    ofDirectory? directory = none ↔ sourcesFolder ∉ directory.components ∨
      ∃ behind, directory.components = sourcesFolder :: behind ∧ sourcesFolder ∉ behind := by
  unfold ofDirectory?
  cases hsplit : splitAtSources directory.components with
  | none => exact iff_of_true rfl (.inl (splitAtSources_eq_none_iff.mp hsplit))
  | some parts =>
    obtain ⟨before, behind⟩ := parts
    obtain ⟨hcomponents, hbehind⟩ := splitAtSources_eq_some_iff.mp hsplit
    have hmem : sourcesFolder ∈ directory.components := by rw [hcomponents]; simp
    dsimp only
    cases hlast : before.getLast? with
    | none =>
      obtain rfl := List.getLast?_eq_none_iff.mp hlast
      exact iff_of_true rfl (.inr ⟨behind, hcomponents, hbehind⟩)
    | some name =>
      refine iff_of_false (Option.some_ne_none _) ?_
      rintro (hnone | ⟨behind', hfirst, hbehind'⟩)
      · exact hnone hmem
      · -- then `Sources` would stand first, with nothing before it
        have hfront := splitAtSources_append [] hbehind'
        rw [List.nil_append, ← hfirst, hsplit] at hfront
        obtain ⟨rfl, -⟩ := Prod.mk.inj (Option.some.inj hfront)
        exact nomatch hlast

/-- The framework of a directory has the name that stands before the last `Sources`. -/
lemma ofDirectory?_eq_some_iff :
    ofDirectory? directory = some framework ↔ ∃ above name behind,
      directory.components = above ++ name :: sourcesFolder :: behind ∧ sourcesFolder ∉ behind ∧
        place directory.anchor above name behind = framework := by
  have hplace {above behind : List Component} {name : Component}
      (h : splitAtSources directory.components = some (above ++ [name], behind)) :
      ofDirectory? directory = some (place directory.anchor above name behind) := by
    unfold ofDirectory?
    rw [h]
    dsimp only
    rw [List.getLast?_concat]
    cases behind <;> rfl
  constructor
  · intro h
    cases hsplit : splitAtSources directory.components with
    | none =>
      unfold ofDirectory? at h
      rw [hsplit] at h
      exact nomatch h
    | some parts =>
      obtain ⟨before, behind⟩ := parts
      obtain ⟨hcomponents, hbehind⟩ := splitAtSources_eq_some_iff.mp hsplit
      rcases List.eq_nil_or_concat' before with rfl | ⟨above, name, rfl⟩
      · rw [ofDirectory?_eq_none_iff.mpr (.inr ⟨behind, hcomponents, hbehind⟩)] at h
        exact nomatch h
      · rw [hplace hsplit] at h
        refine ⟨above, name, behind, ?_, hbehind, Option.some.inj h⟩
        rw [hcomponents, List.append_assoc, List.singleton_append]
  · rintro ⟨above, name, behind, hcomponents, hbehind, rfl⟩
    refine hplace (splitAtSources_eq_some_iff.mpr ⟨?_, hbehind⟩)
    rw [hcomponents, List.append_assoc, List.singleton_append]

/-! ## Joining -/

/-- A directory is joined from a framework: it is the folder of sources, or a folder below with no other `Sources` on
the way.  The framework has the last component of its path as its name, and what is left out of the folder is that name,
once. -/
structure Joins (framework : Framework) (directory : Path) : Prop where
  joined : (framework.path.child sourcesFolder).join (Path.ofText framework.sourceFolder) = directory
  innermost : sourcesFolder ∉ (Path.ofText framework.sourceFolder).components
  written : framework.sourceFolder = Path.componentsText (Path.ofText framework.sourceFolder).components
  named : framework.path.components.getLast?.map (·.val) = some framework.name
  repeated : ∀ c rest, (Path.ofText framework.sourceFolder).components = c :: rest → c.val = framework.name →
    framework.folder = Path.componentsText rest
  verbatim : (∀ c rest, (Path.ofText framework.sourceFolder).components = c :: rest → c.val ≠ framework.name) →
    framework.folder = framework.sourceFolder

lemma join_sources (anchor : Anchor) (above behind : List Component) (name : Component) :
    (((place anchor above name behind).path.child sourcesFolder).join
        (Path.ofText (place anchor above name behind).sourceFolder))
      = ⟨anchor, above ++ name :: sourcesFolder :: behind⟩ := by
  show (Path.child _ _).join (Path.ofText (Path.componentsText behind)) = _
  rw [Path.join_componentsText]
  simp [place, Path.child]

lemma joins_place (anchor : Anchor) (above : List Component) (name : Component) (hbehind : sourcesFolder ∉ behind) :
    (place anchor above name behind).Joins ⟨anchor, above ++ name :: sourcesFolder :: behind⟩ := by
  have hread : (Path.ofText (place anchor above name behind).sourceFolder).components = behind := by
    show (Path.ofText (Path.componentsText behind)).components = behind
    rw [Path.ofText_componentsText]
  refine ⟨join_sources anchor above behind name, ?_, ?_, ?_, ?_, ?_⟩
  · rwa [hread]
  · rw [hread]
    rfl
  · show (above ++ [name]).getLast?.map _ = _
    rw [List.getLast?_concat]
    rfl
  · intro c rest hcons hname
    rw [hread] at hcons
    show Path.componentsText (withoutName name behind) = _
    rw [hcons, withoutName, if_pos (Subtype.ext hname)]
  · intro hother
    show Path.componentsText (withoutName name behind) = Path.componentsText behind
    rw [hread] at hother
    rcases withoutName_eq_or name behind with hsame | hcons
    · rw [← hsame]
    · exact absurd rfl (hother name _ hcons)

/-- A folder behind `Sources` with no other one on the way is written where the framework of its directory says. -/
lemma eq_of_join {path : Path} {folder : Text} (h : ofDirectory? directory = some framework)
    (hjoined : (path.child sourcesFolder).join (Path.ofText folder) = directory)
    (hinnermost : sourcesFolder ∉ (Path.ofText folder).components) :
    path = framework.path ∧ Path.ofText folder = Path.ofText framework.sourceFolder := by
  obtain ⟨above, name, behind, hcomponents, hbehind, rfl⟩ := ofDirectory?_eq_some_iff.mp h
  have hrelative : (Path.ofText folder).isAbsolute ≠ true := by
    -- a folder with an anchor of its own would be the directory, which has a `Sources`
    intro habsolute
    rw [Path.join_of_isAbsolute _ habsolute] at hjoined
    rw [hjoined, hcomponents] at hinnermost
    exact hinnermost (by simp)
  have hanchor : (Path.ofText folder).anchor = .working := by
    by_contra hother
    exact hrelative (Path.isAbsolute_iff.mpr hother)
  have hparts : directory
      = ⟨path.anchor, path.components ++ sourcesFolder :: (Path.ofText folder).components⟩ := by
    rw [← hjoined]
    unfold Path.join
    rw [if_neg hrelative]
    simp [Path.child]
  -- both divide the directory at its last `Sources`
  have hsplit := splitAtSources_append path.components hinnermost
  have hsplit' := splitAtSources_append (above ++ [name]) hbehind
  rw [List.append_assoc, List.singleton_append, ← hcomponents, hparts, hsplit] at hsplit'
  obtain ⟨habove, hfolder⟩ := Prod.mk.inj (Option.some.inj hsplit')
  refine ⟨?_, ?_⟩
  · rw [hparts]
    exact congrArg (Path.mk path.anchor) habove
  · show _ = Path.ofText (Path.componentsText behind)
    rw [Path.ofText_componentsText, ← hfolder, ← hanchor]

/-- A framework from which a directory is joined is given by the components of that directory. -/
lemma Joins.exists_place (h : framework.Joins directory) :
    ∃ above name behind, sourcesFolder ∉ behind ∧ framework = place framework.path.anchor above name behind := by
  obtain ⟨⟨anchor, components⟩, frameworkName, folder, sourceFolder⟩ := framework
  obtain ⟨-, hinnermost, hwritten, hnamed, hrepeated, hverbatim⟩ := h
  dsimp only at hinnermost hwritten hnamed hrepeated hverbatim
  generalize (Path.ofText sourceFolder).components = behind at *
  rcases List.eq_nil_or_concat' components with rfl | ⟨above, name, rfl⟩
  · exact nomatch hnamed
  · rw [List.getLast?_concat] at hnamed
    obtain rfl : name.val = frameworkName := Option.some.inj hnamed
    have hfolder : folder = Path.componentsText (withoutName name behind) := by
      cases behind with
      | nil => rw [hverbatim (fun c rest hcons => nomatch hcons), hwritten, withoutName]
      | cons c rest =>
        rw [withoutName]
        split
        · next hname => exact hrepeated c rest rfl (congrArg Subtype.val hname)
        · next hname =>
          rw [← hwritten]
          refine hverbatim fun c' rest' hcons hname' => ?_
          rw [(List.cons.inj hcons).1] at hname
          exact hname (Subtype.ext hname')
    exact ⟨above, name, behind, hinnermost, by rw [hfolder, hwritten]; rfl⟩

/-- Looking for the framework of a directory undoes the joining of the directory.  There is none exactly if there is no
`Sources` on the path, or if the last one stands first, with no name between the anchor and it.  Otherwise it is the
only one from which the directory is joined, however the folder behind `Sources` may be spelled. -/
theorem ofDirectory_undoesJoin (directory : Path) :
    (ofDirectory? directory = none ↔ sourcesFolder ∉ directory.components ∨
      ∃ behind, directory.components = sourcesFolder :: behind ∧ sourcesFolder ∉ behind) ∧
    (∀ framework, ofDirectory? directory = some framework ↔ framework.Joins directory) ∧
    ∀ framework path folder, ofDirectory? directory = some framework →
      (Path.child path sourcesFolder).join (Path.ofText folder) = directory →
      sourcesFolder ∉ (Path.ofText folder).components →
        path = framework.path ∧ Path.ofText folder = Path.ofText framework.sourceFolder := by
  refine ⟨ofDirectory?_eq_none_iff, fun framework => ⟨fun h => ?_, fun h => ?_⟩,
    fun framework path folder => eq_of_join⟩
  · obtain ⟨above, name, behind, hcomponents, hbehind, rfl⟩ := ofDirectory?_eq_some_iff.mp h
    have hjoins := joins_place directory.anchor above name hbehind
    rwa [← hcomponents] at hjoins
  · obtain ⟨above, name, behind, hbehind, hplace⟩ := h.exists_place
    have hjoined := h.joined
    rw [hplace, join_sources] at hjoined
    rw [ofDirectory?_eq_some_iff, ← hjoined]
    exact ⟨above, name, behind, rfl, hbehind, hplace.symm⟩

/-- A folder below two `Sources` that repeats the framework's name, and a framework that is called `Sources` itself.
Directly below the root there is no name. -/
theorem ofDirectory_undoesJoin_nested :
    (⟨Path.ofText "/r/Sources/F".toList, "F".toList, "F/a".toList, "F/F/a".toList⟩ : Framework).Joins
      (Path.ofText "/r/Sources/F/Sources/F/F/a".toList) ∧
    (⟨Path.ofText "r/Sources".toList, "Sources".toList, [], []⟩ : Framework).Joins
      (Path.ofText "r/Sources/Sources".toList) ∧
    ofDirectory? (Path.ofText "//Sources/a".toList) = none := by
  refine ⟨?_, ?_, ?_⟩
  · exact ((ofDirectory_undoesJoin _).2.1 _).mp (by decide +kernel)
  · exact ((ofDirectory_undoesJoin _).2.1 _).mp (by decide +kernel)
  · exact (ofDirectory_undoesJoin _).1.mpr (.inr ⟨[⟨"a".toList, by decide⟩], by decide +kernel, by decide +kernel⟩)

end Counterpart.Framework
