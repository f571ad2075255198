import Counterpart.CommandLine
import Counterpart.Proofs.CommandLine.Reading
import Counterpart.Proofs.Number.Reading
import Counterpart.Proofs.Settings.Values

/-!
# Seconds

The time limit of a run comes from the settings or from the command line, and both only let through numbers of seconds
that are not at most zero.  So it is greater than zero, unless it is no number at all.

* `positiveSeconds_eq_ok_iff`: what is let through by the command line;
* `isPositive_of_timeoutOf`: what is let through by the settings;
* `HasLimit` and `limits_arePositiveOrNaN`: the limit of a run.
-/

namespace Counterpart

open Number (Binary64)

/-- The command line lets through the numerals for every number that is not at most zero. -/
lemma positiveSeconds_eq_ok_iff {t : Text} {x : Binary64} :
    positiveSeconds t = .ok x ↔ Number.IsNumeral t x ∧ (x.IsPositive ∨ x = .nan) := by
  rw [← Binary64.isNonPositive_eq_false_iff, ← Number.numeral?_eq_some_iff]
  unfold positiveSeconds
  cases Number.numeral? t with
  | none => simp
  | some y =>
    by_cases hsign : y.isNonPositive = true
    · simp only [if_pos hsign, Option.some.injEq]
      constructor
      · exact fun h => nomatch h
      · rintro ⟨rfl, h⟩
        exact absurd (hsign.symm.trans h) (by simp)
    · simp only [if_neg hsign, Except.ok.injEq, Option.some.injEq]
      constructor
      · rintro rfl
        exact ⟨rfl, eq_false_of_ne_true hsign⟩
      · exact And.left

namespace Settings

lemma isPositive_defaultSeconds : TimeLimit.defaultSeconds.IsPositive := by
  unfold TimeLimit.defaultSeconds
  rw [Binary64.isPositive_ofRatio_iff Nat.one_pos]
  have hleast : (2 : ℚ) ^ (-1075 : Int) < 1 := zpow_lt_one_of_neg₀ one_lt_two (by decide)
  exact ⟨rfl, hleast.trans (by norm_num)⟩

lemma isPositive_of_heeds {value : Option Json} {x : Binary64}
    (h : Heeds MeansSeconds TimeLimit.defaultSeconds value x) : x.IsPositive := by
  cases h with
  | value hmeans =>
    cases hmeans with
    | int hpositive hofInt => exact Binary64.isPositive_of_ofInt? hpositive hofInt
    | float hpositive => exact hpositive
  | meaningless hnone => exact isPositive_defaultSeconds
  | missing => exact isPositive_defaultSeconds

/-- The settings let through every number that is not at most zero. -/
lemma isPositive_of_timeoutOf {config : Json} {x : Binary64} (h : timeoutOf config = .ok x) :
    x.IsPositive ∨ x = .nan ∧ secondsAt config = some (.float .nan) := by
  by_cases hnumber : secondsAt config = some (.float .nan)
  · exact .inr ⟨Except.ok.inj (h.symm.trans (timeoutOf_of_noNumber hnumber)), hnumber⟩
  · exact .inl (isPositive_of_heeds (heeds_timeout h hnumber))

end Settings

namespace CommandLine

/-- Where the time limit of a run comes from: from a value on the command line, else from the settings. -/
inductive HasLimit (drops : Bool) (line : List Text) (arguments : Arguments) (config : Json) : TimeLimit → Prop
  | given {value : Text} {x : Binary64} (hgives : Gives line value) (hnumeral : Number.IsNumeral value x)
      (hpositive : x.IsPositive ∨ x = .nan) : HasLimit drops line arguments config (.fraction x)
  | configured {x : Binary64} (hnone : arguments.timeout = none) (hread : Settings.timeoutOf config = .ok x)
      (hpositive : x.IsPositive ∨ x = .nan ∧ Settings.secondsAt config = some (.float .nan)) :
      HasLimit drops line arguments config (.fraction x)
  /-- Where double dashes get lost, one that was meant as the value leaves the limit blank. -/
  | blank (hdrops : drops = true) (hgives : Gives line doubleDash) :
      HasLimit drops line arguments config (.other blankKind)

/-- The time limit among some arguments is a value that was offered. -/
def TimeoutOffered (drops : Bool) (offered : Text → Prop) (arguments : Arguments) : Prop :=
  ∀ timeout, arguments.timeout = some timeout →
    (timeout = .blank ∧ drops = true ∧ offered doubleDash) ∨
      ∃ value x, offered value ∧ timeout = .given x ∧ positiveSeconds value = .ok x

variable {drops : Bool}

lemma TimeoutOffered.step {offered : Text → Prop} {arguments next : Arguments}
    (h : TimeoutOffered drops offered arguments) (hstep : Step drops offered arguments next) :
    TimeoutOffered drops offered next := by
  cases hstep with
  | path t => exact h
  | extra t => exact h
  | flag flag => cases flag <;> exact h
  | @value _ flag value hoffered hnext =>
    unfold Arguments.withValue at hnext
    split at hnext
    · next hdash =>
      obtain rfl := Except.ok.inj hnext
      cases flag with
      | timeout =>
        rintro timeout htimeout
        obtain rfl := Option.some.inj htimeout
        exact .inl ⟨rfl, hdash.1, hdash.2 ▸ hoffered⟩
      | _ => exact h
    · cases flag with
      | help => exact nomatch hnext
      | verbose => exact nomatch hnext
      | root =>
        obtain rfl := Except.ok.inj hnext
        exact h
      | tool =>
        dsimp only at hnext
        split at hnext
        · obtain rfl := Except.ok.inj hnext
          exact h
        · exact nomatch hnext
      | timeout =>
        dsimp only at hnext
        split at hnext
        · next seconds hseconds =>
          obtain rfl := Except.ok.inj hnext
          rintro timeout htimeout
          obtain rfl := Option.some.inj htimeout
          exact .inr ⟨value, seconds, hoffered, rfl, hseconds⟩
        · exact nomatch hnext

lemma TimeoutOffered.steps {offered : Text → Prop} {arguments last : Arguments}
    (h : TimeoutOffered drops offered arguments) (hsteps : Steps drops offered arguments last) :
    TimeoutOffered drops offered last := by
  induction hsteps with
  | refl => exact h
  | tail _ hstep ih => exact ih.step hstep

lemma hasLimit_limitFor {line : List Text} {arguments : Arguments} {config : Json} {settings : Settings}
    (hline : IsReadingOf drops line arguments) (hconfig : Settings.ofConfig config = .ok settings) :
    HasLimit drops line arguments config (limitFor settings arguments) := by
  have hoffered : TimeoutOffered drops (Gives line) arguments :=
    TimeoutOffered.steps (fun timeout h => absurd h (by simp)) hline.steps
  unfold limitFor
  cases htimeout : arguments.timeout with
  | none =>
    obtain ⟨timeout, hread, rfl⟩ := Settings.exists_timeout_of_ofConfig hconfig
    exact .configured htimeout hread (Settings.isPositive_of_timeoutOf hread)
  | some timeout =>
    rcases hoffered timeout htimeout with ⟨rfl, hdrops, hgives⟩ | ⟨value, x, hgives, rfl, hseconds⟩
    · exact .blank hdrops hgives
    · obtain ⟨hnumeral, hpositive⟩ := positiveSeconds_eq_ok_iff.mp hseconds
      exact .given hgives hnumeral hpositive

/-- Every time limit that is let through is greater than zero, unless it is no number: the one that the settings give,
those that the command line takes, and so the one that a run has.  Only where the value of the flag gets lost something
else stands in its place. -/
theorem limits_arePositiveOrNaN (config : Json) (t : Text) (around : Surroundings) (line : List Text) :
    (∀ x, Settings.timeoutOf config = .ok x →
      x.IsPositive ∨ x = .nan ∧ Settings.secondsAt config = some (.float .nan)) ∧
    (∀ x, positiveSeconds t = .ok x ↔ Number.IsNumeral t x ∧ (x.IsPositive ∨ x = .nan)) ∧
    ∀ arguments settings, Arguments.read around.dropsDoubleDash line = .ok arguments →
      Settings.load around = .ok settings →
        HasLimit around.dropsDoubleDash line arguments (Settings.loadConfig around)
          (limitFor settings arguments) := by
  refine ⟨?_, ?_, ?_⟩
  · exact fun x => Settings.isPositive_of_timeoutOf
  · exact fun x => positiveSeconds_eq_ok_iff
  · exact fun arguments settings hline hload => hasLimit_limitFor (isReadingOf_of_read hline) hload

/-- Surroundings without any file. -/
def emptySurroundings : Surroundings where
  fs := FileSystem.empty
  cwd := Path.root

/-- No number comes through on both ways. -/
theorem limits_arePositiveOrNaN_nan :
    positiveSeconds "nan".toList = .ok .nan ∧
    Settings.timeoutOf (.object [("include_search_timeout_seconds".toList, .float .nan)]) = .ok .nan ∧
    ∃ arguments settings, Arguments.read emptySurroundings.dropsDoubleDash ["--timeout=nan".toList, "a.h".toList]
        = .ok arguments ∧
      Settings.load emptySurroundings = .ok settings ∧
      HasLimit emptySurroundings.dropsDoubleDash ["--timeout=nan".toList, "a.h".toList] arguments
        (Settings.loadConfig emptySurroundings) (limitFor settings arguments) ∧
      limitFor settings arguments = .fraction .nan := by
  obtain ⟨-, htext, hrun⟩ := limits_arePositiveOrNaN (.object []) "nan".toList emptySurroundings
    ["--timeout=nan".toList, "a.h".toList]
  have hnumeral : Number.IsNumeral "nan".toList .nan := Number.numeral?_eq_some_iff.mp (by decide +kernel)
  refine ⟨(htext _).mpr ⟨hnumeral, .inr rfl⟩, rfl, ?_⟩
  have htimeout : (Arguments.read emptySurroundings.dropsDoubleDash ["--timeout=nan".toList, "a.h".toList]).map
      Arguments.timeout = .ok (some (.given .nan)) := by decide +kernel
  have hload : Settings.load emptySurroundings = .ok ⟨.default, TimeLimit.defaultSeconds, .auto⟩ := rfl
  cases hread : Arguments.read emptySurroundings.dropsDoubleDash ["--timeout=nan".toList, "a.h".toList] with
  | error e =>
    rw [hread] at htimeout
    exact nomatch htimeout
  | ok arguments =>
    rw [hread] at htimeout
    have hgiven : arguments.timeout = some (.given .nan) := Except.ok.inj htimeout
    refine ⟨arguments, _, rfl, hload, hrun _ _ hread hload, ?_⟩
    unfold limitFor
    rw [hgiven]

end CommandLine

end Counterpart
