import Counterpart.CommandLine.Arguments
import Mathlib.Logic.Relation
import Mathlib.Tactic.Lemma

/-!
# How a command line is read

A command line is read in steps, each of which takes in a path, a flag, a value, or an argument that nothing can be
made of.

* `Step` and `steps_of_readFrom`: the steps, and that every reading is a chain of them;
* `mem_of_items`: a value is what an argument of the line ends with;
* `isReadingOf_of_read`: the reading of a whole line.
-/

namespace Counterpart.CommandLine

/-- A computation that succeeds has succeeded in its first part. -/
lemma exists_of_bind_eq_ok {ε α β : Type} {x : Except ε α} {f : α → Except ε β} {b : β} (h : x >>= f = .ok b) :
    ∃ a, x = .ok a ∧ f a = .ok b := by
  cases x with
  | error e => exact absurd h (by simp [bind, Except.bind])
  | ok a => exact ⟨a, rfl, h⟩

/-! ## Steps -/

/-- A value that some items offer: an argument as a whole, or what stands with a flag in the same argument. -/
def Offers (items : List (Text × Item)) (value : Text) : Prop :=
  ∃ entry ∈ items, value = entry.1 ∨ ∃ flag short, entry.2 = .flag flag short (some value)

lemma Offers.tail {entry : Text × Item} {items : List (Text × Item)} {value : Text} (h : Offers items value) :
    Offers (entry :: items) value := by
  obtain ⟨other, hother, hvalue⟩ := h
  exact ⟨other, List.mem_cons_of_mem entry hother, hvalue⟩

/-- What one step of reading makes of the arguments so far, with values out of those that are offered. -/
inductive Step (drops : Bool) (offered : Text → Prop) : Arguments → Arguments → Prop
  | path (arguments : Arguments) (t : Text) : Step drops offered arguments { arguments with path := some t }
  | extra (arguments : Arguments) (t : Text) : Step drops offered arguments (arguments.withExtra t)
  | flag (arguments : Arguments) (flag : Flag) : Step drops offered arguments (arguments.withFlag flag)
  | value {arguments next : Arguments} {flag : Flag} {value : Text} (hoffered : offered value)
      (h : arguments.withValue drops flag value = .ok next) : Step drops offered arguments next

/-- Any number of steps. -/
abbrev Steps (drops : Bool) (offered : Text → Prop) : Arguments → Arguments → Prop :=
  Relation.ReflTransGen (Step drops offered)

variable {drops : Bool}

lemma Steps.mono {offered more : Text → Prop} (h : ∀ value, offered value → more value) {arguments last : Arguments}
    (hsteps : Steps drops offered arguments last) : Steps drops more arguments last := by
  refine Relation.ReflTransGen.mono (fun before after hstep => ?_) _ _ hsteps
  cases hstep with
  | path t => exact .path before t
  | extra t => exact .extra before t
  | flag flag => exact .flag before flag
  | value hoffered hvalue => exact .value (h _ hoffered) hvalue

lemma steps_foldl_withFlag (drops : Bool) (offered : Text → Prop) (flags : List Flag) (arguments : Arguments) :
    Steps drops offered arguments (flags.foldl Arguments.withFlag arguments) := by
  induction flags generalizing arguments with
  | nil => exact .refl
  | cons flag flags ih => exact .head (.flag arguments flag) (ih _)

/-- A chain of steps, behind a first one that takes in something else. -/
lemma Steps.behind {entry : Text × Item} {items : List (Text × Item)} {arguments next last : Arguments}
    (hstep : Step drops (Offers (entry :: items)) arguments next) (hsteps : Steps drops (Offers items) next last) :
    Steps drops (Offers (entry :: items)) arguments last :=
  .head hstep (hsteps.mono fun _ h => h.tail)

/-- Every reading is a chain of steps. -/
lemma steps_of_readFrom {items : List (Text × Item)} {arguments last : Arguments}
    (h : Arguments.readFrom drops arguments items = .ok last) : Steps drops (Offers items) arguments last := by
  fun_induction Arguments.readFrom drops arguments items with
  | case1 arguments =>
    obtain rfl := Except.ok.inj h
    exact .refl
  | case2 arguments argument rest ih => exact .behind (.extra arguments argument) (ih h)
  | case3 arguments argument rest hpath ih => exact .behind (.extra arguments argument) (ih h)
  | case4 arguments argument hpath next dash rest ih =>
    exact .behind (.path arguments argument) ((ih h).mono fun _ h => h.tail)
  | case5 arguments argument hpath next rest hrest ih => exact .behind (.path arguments argument) (ih h)
  | case6 arguments argument rest hpath ih => exact .behind (.extra arguments argument) (ih h)
  | case7 arguments argument hpath path rest ih =>
    exact .behind (.path arguments path) ((ih h).mono fun _ h => h.tail)
  | case8 arguments argument hpath rest hrest ih => exact .behind (.extra arguments argument) (ih h)
  | case9 arguments argument flag short hflag value rest ih =>
    obtain ⟨next, hnext, hrest⟩ := exists_of_bind_eq_ok h
    exact .behind (.value ⟨_, List.mem_cons_self, .inr ⟨flag, short, rfl⟩⟩ hnext) (ih next hrest)
  | case10 arguments argument flag short hflag value rest ih =>
    obtain ⟨next, hnext, hrest⟩ := exists_of_bind_eq_ok h
    have hoffered : Offers ((value, .plain) :: rest) value := ⟨_, List.mem_cons_self, .inl rfl⟩
    exact .behind (.value hoffered.tail hnext) ((ih next hrest).mono fun _ h => h.tail)
  | case11 arguments argument flag short rest hflag hrest => exact nomatch h
  | case12 arguments argument flag short value rest hflag ih =>
    obtain ⟨flags, -, hrest⟩ := exists_of_bind_eq_ok h
    have hflags := steps_foldl_withFlag drops (Offers ((argument, .flag flag short value) :: rest)) flags arguments
    dsimp only at hrest
    split at hrest
    · obtain rfl := Except.ok.inj hrest
      exact hflags
    · exact hflags.trans ((ih flags hrest).mono fun _ h => h.tail)

/-! ## Values -/

lemma suffix_of_splitEquals {t beginning value : Text} (h : splitEquals t = (beginning, some value)) : value <:+ t := by
  unfold splitEquals at h
  split at h
  · exact absurd h (by simp)
  · next c rest hrest =>
    obtain ⟨-, hvalue⟩ := Prod.mk.inj h
    obtain rfl := Option.some.inj hvalue
    exact (List.suffix_cons c rest).trans (hrest ▸ List.dropWhile_suffix _)

lemma suffix_of_mem_candidates {argument spelling value : Text} {flag : Flag}
    (h : (spelling, flag, some value) ∈ candidates argument) : value <:+ argument := by
  unfold candidates at h
  split at h
  · obtain ⟨⟨spelling, flag⟩, -, hcandidate⟩ := List.mem_map.mp h
    simp only [Prod.mk.injEq, Option.some.injEq] at hcandidate
    rw [← hcandidate.2.2]
    exact List.drop_suffix 2 argument
  · obtain ⟨⟨spelling, flag⟩, -, hcandidate⟩ := List.mem_map.mp h
    simp only [Prod.mk.injEq] at hcandidate
    exact suffix_of_splitEquals (Prod.ext rfl hcandidate.2.2)

/-- The value that stands with a flag is what the argument ends with. -/
lemma suffix_of_item {argument value : Text} {flag : Flag} {short : Bool}
    (h : item argument = .ok (.flag flag short (some value))) : value <:+ argument := by
  unfold item at h
  split at h
  · next c rest =>
    unfold dashedItem at h
    split at h
    · simp at h
    · dsimp only at h
      split at h
      · next flag' hflag =>
        obtain ⟨-, -, hvalue⟩ := Item.flag.inj (Except.ok.inj h)
        exact suffix_of_splitEquals (Prod.ext rfl hvalue)
      · split at h
        · next spelling flag' value' hcandidates =>
          obtain ⟨-, -, rfl⟩ := Item.flag.inj (Except.ok.inj h)
          have hmem : (spelling, flag', some value) ∈ candidates ('-' :: c :: rest) := by
            rw [hcandidates]
            exact List.mem_cons_self
          exact suffix_of_mem_candidates hmem
        · split at h <;> simp at h
        · simp at h
  · simp at h

/-- The items of a line are its arguments, and a value that stands with a flag is what the argument ends with. -/
lemma mem_of_items {line : List Text} {sorted : List (Text × Item)} (h : items line = .ok sorted) :
    ∀ entry ∈ sorted, entry.1 ∈ line ∧
      ∀ flag short value, entry.2 = .flag flag short (some value) → value <:+ entry.1 := by
  induction line generalizing sorted with
  | nil =>
    obtain rfl := Except.ok.inj h
    exact fun entry hentry => absurd hentry List.not_mem_nil
  | cons argument rest ih =>
    unfold items at h
    split at h
    · obtain rfl := Except.ok.inj h
      rintro entry (_ | ⟨_, hentry⟩)
      · exact ⟨List.mem_cons_self, by simp⟩
      · obtain ⟨plain, hplain, rfl⟩ := List.mem_map.mp hentry
        exact ⟨List.mem_cons_of_mem argument hplain, by simp⟩
    · obtain ⟨first, hfirst, h⟩ := exists_of_bind_eq_ok h
      obtain ⟨others, hothers, h⟩ := exists_of_bind_eq_ok h
      obtain rfl := Except.ok.inj h
      rintro entry (_ | ⟨_, hentry⟩)
      · refine ⟨List.mem_cons_self, fun flag short value hflag => ?_⟩
        obtain rfl : first = _ := hflag
        exact suffix_of_item hfirst
      · obtain ⟨hmem, hvalue⟩ := ih hothers entry hentry
        exact ⟨List.mem_cons_of_mem argument hmem, hvalue⟩

/-- A value that a line gives: what one of its arguments ends with. -/
def Gives (line : List Text) (value : Text) : Prop := ∃ argument ∈ line, value <:+ argument

lemma gives_of_offers {line : List Text} {sorted : List (Text × Item)} (h : items line = .ok sorted) {value : Text}
    (hoffered : Offers sorted value) : Gives line value := by
  obtain ⟨entry, hentry, hvalue⟩ := hoffered
  obtain ⟨hmem, hsuffix⟩ := mem_of_items h entry hentry
  rcases hvalue with rfl | ⟨flag, short, hflag⟩
  · exact ⟨entry.1, hmem, List.suffix_rfl⟩
  · exact ⟨entry.1, hmem, hsuffix flag short value hflag⟩

/-! ## Blanks -/

/-- The value of a flag is left blank. -/
def Arguments.HasBlank (arguments : Arguments) : Prop :=
  arguments.root = some .blank ∨ arguments.timeout = some .blank ∨ arguments.tool = some .blank

/-- Where no double dash gets lost, a step leaves no flag blank. -/
lemma Step.not_hasBlank {offered : Text → Prop} {arguments next : Arguments} (hstep : Step false offered arguments next)
    (h : ¬ arguments.HasBlank) : ¬ next.HasBlank := by
  cases hstep with
  | path t => exact h
  | extra t => exact h
  | flag flag => cases flag <;> exact h
  | @value _ flag value _ hnext =>
    obtain ⟨hroot, htimeout, htool⟩ : arguments.root ≠ some .blank ∧ arguments.timeout ≠ some .blank ∧
        arguments.tool ≠ some .blank := by simpa [Arguments.HasBlank] using h
    unfold Arguments.withValue at hnext
    rw [if_neg (by simp)] at hnext
    cases flag with
    | help => exact nomatch hnext
    | verbose => exact nomatch hnext
    | root =>
      obtain rfl := Except.ok.inj hnext
      simp [Arguments.HasBlank, htimeout, htool]
    | timeout =>
      dsimp only at hnext
      split at hnext
      · obtain rfl := Except.ok.inj hnext
        simp [Arguments.HasBlank, hroot, htool]
      · exact nomatch hnext
    | tool =>
      dsimp only at hnext
      split at hnext
      · obtain rfl := Except.ok.inj hnext
        simp [Arguments.HasBlank, hroot, htimeout]
      · exact nomatch hnext

/-- Then no number of steps does. -/
lemma Steps.not_hasBlank {offered : Text → Prop} {last : Arguments} (hsteps : Steps false offered {} last) :
    ¬ last.HasBlank := by
  induction hsteps with
  | refl => simp [Arguments.HasBlank]
  | tail _ hstep ih => exact hstep.not_hasBlank ih

/-! ## Lines -/

/-- What is read of a line if nothing speaks against it: a chain of steps, with a path among them unless help is
wanted. -/
structure IsReadingOf (drops : Bool) (line : List Text) (arguments : Arguments) : Prop where
  steps : Steps drops (Gives line) {} arguments
  path : arguments.help = false → ∃ path, arguments.path = some path

/-- A flag is only left blank where a double dash gets lost. -/
lemma IsReadingOf.drops_of_hasBlank {line : List Text} {arguments : Arguments} (h : IsReadingOf drops line arguments)
    (hblank : arguments.HasBlank) : drops = true := by
  cases drops with
  | true => rfl
  | false => exact absurd hblank h.steps.not_hasBlank

/-- A line that is read is read in steps, and there is a path in it unless help is wanted. -/
lemma isReadingOf_of_read {line : List Text} {arguments : Arguments}
    (h : Arguments.read drops line = .ok arguments) : IsReadingOf drops line arguments := by
  obtain ⟨sorted, hsorted, h⟩ := exists_of_bind_eq_ok h
  obtain ⟨last, hlast, h⟩ := exists_of_bind_eq_ok h
  have hsteps : Steps drops (Gives line) {} last := (steps_of_readFrom hlast).mono fun _ => gives_of_offers hsorted
  split at h
  · next hhelp =>
    obtain rfl := Except.ok.inj h
    have hnot : ¬ last.help = false := by simp [hhelp]
    exact ⟨hsteps, fun h => absurd h hnot⟩
  · split at h
    · exact absurd h (by simp [throw, throwThe, MonadExceptOf.throw])
    · next hpath =>
      split at h
      · exact absurd h (by simp [throw, throwThe, MonadExceptOf.throw])
      · obtain rfl := Except.ok.inj h
        exact ⟨hsteps, fun _ => Option.ne_none_iff_exists'.mp (by simpa using hpath)⟩

end Counterpart.CommandLine
