import Counterpart.CommandLine
import Counterpart.Proofs.CommandLine.Reading
import Counterpart.Proofs.Scan.Refusal
import Counterpart.Proofs.Settings.Values

/-!
# What a run checks

Before it looks anything up, a run checks that its file is there, then that its root is, and then that the file has a
role under the settings.

* `Refuses`, `Breaks` and `Passes`: the checks end with a message, cannot be made, or all succeed;
* `checks_cases`: there is nothing else;
* `Refuses.exists_taskFor_eq`, `Breaks.taskFor_eq` and `Passes.taskFor_eq`: what a run does then.
-/

namespace Counterpart.CommandLine

open Number (Binary64)

/-! ## Endings -/

/-- A run ends with a message, and writes nothing on standard output. -/
structure Ending.IsMessage (ending : Ending) (message : String) : Prop where
  message : ending.message? = some message
  output : ending.output = []
  status : ending.status = 1
  notFailed : ∀ e, ending ≠ .failed e

/-! ## The checks -/

/-- The root of a run: the one given, else the default root, else the working directory. -/
inductive IsRoot (around : Surroundings) (defaultRoot : Option Path) (arguments : Arguments) : Path → Prop
  | given {t : Text} (h : arguments.root = some (.given t)) : IsRoot around defaultRoot arguments (Path.ofText t)
  | default {root : Path} (h : arguments.root = none) (hdefault : defaultRoot = some root) :
      IsRoot around defaultRoot arguments root
  | working (h : arguments.root = none) (hdefault : defaultRoot = none) : IsRoot around defaultRoot arguments around.cwd

/-- The first two checks succeed: the file is there, and so is the root. -/
structure HasPlaces (around : Surroundings) (defaultRoot : Option Path) (arguments : Arguments) (path root : Path) :
    Prop where
  file : around.fs.isFile around.cwd path = .ok true
  isRoot : IsRoot around defaultRoot arguments root
  directory : around.fs.isDirectory around.cwd root = .ok true

/-- All checks succeed. -/
structure Passes (around : Surroundings) (defaultRoot : Option Path) (arguments : Arguments) (path root : Path)
    (settings : Settings) : Prop extends HasPlaces around defaultRoot arguments path root where
  load : Settings.load around = .ok settings
  role : settings.table.role path.text ≠ .other

/-- The message of the first check that fails. -/
inductive Refuses (around : Surroundings) (defaultRoot : Option Path) (arguments : Arguments) (path : Path) :
    String → Prop
  | file (h : around.fs.isFile around.cwd path = .ok false) :
      Refuses around defaultRoot arguments path ("Path not found: " ++ path.shown)
  | root {root : Path} (hfile : around.fs.isFile around.cwd path = .ok true)
      (hroot : IsRoot around defaultRoot arguments root) (h : around.fs.isDirectory around.cwd root = .ok false) :
      Refuses around defaultRoot arguments path ("Project root is not a directory: " ++ root.shown)
  | role {root : Path} {settings : Settings} (hplaces : HasPlaces around defaultRoot arguments path root)
      (hload : Settings.load around = .ok settings)
      (h : settings.table.role path.text = .other) :
      Refuses around defaultRoot arguments path ("Not a header or source file: " ++ path.shown)

/-- A check cannot be made: a look is refused, the root is left blank, or the time limit in the settings is too
large. -/
inductive Breaks (around : Surroundings) (defaultRoot : Option Path) (arguments : Arguments) (path : Path) :
    RunError → Prop
  | file {fault : Fault} (h : around.fs.Refuses around.cwd path fault) :
      Breaks around defaultRoot arguments path (.look (.refused fault path))
  | blankRoot (hfile : around.fs.isFile around.cwd path = .ok true) (h : arguments.root = some .blank) :
      Breaks around defaultRoot arguments path .blankRoot
  | root {root : Path} {fault : Fault} (hfile : around.fs.isFile around.cwd path = .ok true)
      (hroot : IsRoot around defaultRoot arguments root) (h : around.fs.Refuses around.cwd root fault) :
      Breaks around defaultRoot arguments path (.look (.refused fault root))
  | settings {root : Path} {n : Int} (hplaces : HasPlaces around defaultRoot arguments path root)
      (hvalue : Settings.secondsAt (Settings.loadConfig around) = some (.int n))
      (hlarge : (Binary64.leastTooLarge : Int) ≤ n) : Breaks around defaultRoot arguments path (.settings ⟨n⟩)

variable {around : Surroundings} {defaultRoot : Option Path} {arguments : Arguments} {path root : Path}
  {settings : Settings}

/-! ## What the checks come to -/

lemma leadsTo_cases (test : Entry → Bool) (fs : FileSystem) (cwd p : Path) :
    FileSystem.leadsTo test fs cwd p = .ok true ∨ FileSystem.leadsTo test fs cwd p = .ok false ∨
      ∃ fault, fs.Refuses cwd p fault := by
  cases h : FileSystem.leadsTo test fs cwd p with
  | ok there => cases there <;> simp
  | error e =>
    obtain ⟨fault, hrefuses, -⟩ := FileSystem.leadsTo_eq_error_iff.mp h
    exact .inr (.inr ⟨fault, hrefuses⟩)

lemma isRoot_cases (around : Surroundings) (defaultRoot : Option Path) (arguments : Arguments) :
    arguments.root = some .blank ∨ ∃ root, IsRoot around defaultRoot arguments root := by
  cases hroot : arguments.root with
  | none =>
    cases defaultRoot with
    | none => exact .inr ⟨around.cwd, .working hroot rfl⟩
    | some root => exact .inr ⟨root, .default hroot rfl⟩
  | some value =>
    cases value with
    | blank => exact .inl rfl
    | given t => exact .inr ⟨Path.ofText t, .given hroot⟩

/-- The checks end with a message, or cannot be made, or all succeed. -/
lemma checks_cases (around : Surroundings) (defaultRoot : Option Path) (arguments : Arguments) (path : Path) :
    (∃ message, Refuses around defaultRoot arguments path message) ∨
      (∃ e, Breaks around defaultRoot arguments path e) ∨
      ∃ root settings, Passes around defaultRoot arguments path root settings := by
  rcases leadsTo_cases _ around.fs around.cwd path with hfile | hfile | ⟨fault, hrefused⟩
  · rcases isRoot_cases around defaultRoot arguments with hblank | ⟨root, hroot⟩
    · exact .inr (.inl ⟨_, .blankRoot hfile hblank⟩)
    · rcases leadsTo_cases _ around.fs around.cwd root with hdirectory | hdirectory | ⟨fault, hrefused⟩
      · have hplaces : HasPlaces around defaultRoot arguments path root := ⟨hfile, hroot, hdirectory⟩
        cases hload : Settings.load around with
        | error e =>
          obtain ⟨hvalue, hlarge⟩ := Settings.load_eq_error_iff.mp hload
          exact .inr (.inl ⟨_, .settings hplaces hvalue hlarge⟩)
        | ok settings =>
          by_cases hrole : settings.table.role path.text = .other
          · exact .inl ⟨_, .role hplaces hload hrole⟩
          · exact .inr (.inr ⟨root, settings, hplaces, hload, hrole⟩)
      · exact .inl ⟨_, .root hfile hroot hdirectory⟩
      · exact .inr (.inl ⟨_, .root hfile hroot hrefused⟩)
  · exact .inl ⟨_, .file hfile⟩
  · exact .inr (.inl ⟨_, .file hrefused⟩)

/-! ## Making a task ready -/

lemma IsRoot.rootFor_eq (h : IsRoot around defaultRoot arguments root) :
    rootFor around defaultRoot arguments = .ok root := by
  unfold rootFor
  cases h with
  | given h => rw [h]
  | default h hdefault =>
    rw [h, hdefault]
    rfl
  | working h hdefault =>
    rw [h, hdefault]
    rfl

/-- Where nothing is missing, the task hangs on the settings and the tool. -/
lemma HasPlaces.taskFor_eq (h : HasPlaces around defaultRoot arguments path root) :
    taskFor around defaultRoot path arguments =
      (settingsFor around path).bind fun settings => (toolFor settings arguments).map fun tool =>
        ⟨root, settings, tool⟩ := by
  unfold taskFor
  rw [h.file, h.isRoot.rootFor_eq]
  dsimp only [demand, bind, Except.bind]
  rw [h.directory]
  dsimp only
  cases settingsFor around path with
  | error ending => rfl
  | ok settings =>
    dsimp only
    cases toolFor settings arguments <;> rfl

lemma Passes.taskFor_eq (h : Passes around defaultRoot arguments path root settings) :
    taskFor around defaultRoot path arguments =
      (toolFor settings arguments).map fun tool => ⟨root, settings, tool⟩ := by
  rw [h.toHasPlaces.taskFor_eq]
  unfold settingsFor
  rw [h.load]
  dsimp only
  rw [if_neg h.role]
  rfl

lemma Refuses.exists_taskFor_eq {message : String} (h : Refuses around defaultRoot arguments path message) :
    ∃ ending, ending.IsMessage message ∧ taskFor around defaultRoot path arguments = .error ending := by
  cases h with
  | file h =>
    refine ⟨.fileMissing path, ⟨rfl, rfl, rfl, by simp⟩, ?_⟩
    unfold taskFor
    rw [h]
    rfl
  | @root root hfile hroot h =>
    refine ⟨.rootMissing root, ⟨rfl, rfl, rfl, by simp⟩, ?_⟩
    unfold taskFor
    rw [hfile, hroot.rootFor_eq]
    dsimp only [demand, bind, Except.bind]
    rw [h]
  | role hplaces hload h =>
    refine ⟨.unclassified path, ⟨rfl, rfl, rfl, by simp⟩, ?_⟩
    rw [hplaces.taskFor_eq]
    unfold settingsFor
    rw [hload]
    dsimp only
    rw [if_pos h]
    rfl

lemma Breaks.taskFor_eq {e : RunError} (h : Breaks around defaultRoot arguments path e) :
    taskFor around defaultRoot path arguments = .error (.failed e) := by
  have hlook {test : Entry → Bool} {p : Path} {fault : Fault} (h : around.fs.Refuses around.cwd p fault) :
      FileSystem.leadsTo test around.fs around.cwd p = .error (.refused fault p) :=
    FileSystem.leadsTo_eq_error_iff.mpr ⟨fault, h, rfl⟩
  cases h with
  | @file fault h =>
    have hfile : around.fs.isFile around.cwd path = .error (.refused fault path) := hlook h
    unfold taskFor
    rw [hfile]
    rfl
  | blankRoot hfile h =>
    have hroot : rootFor around defaultRoot arguments = .error (.failed .blankRoot) := by
      unfold rootFor
      rw [h]
    unfold taskFor
    rw [hfile, hroot]
    rfl
  | @root root fault hfile hroot h =>
    have hdirectory : around.fs.isDirectory around.cwd root = .error (.refused fault root) := hlook h
    unfold taskFor
    rw [hfile, hroot.rootFor_eq]
    dsimp only [demand, bind, Except.bind]
    rw [hdirectory]
  | @settings root n hplaces hvalue hlarge =>
    have hload : Settings.load around = .error ⟨n⟩ := Settings.load_eq_error_iff.mpr ⟨hvalue, hlarge⟩
    rw [hplaces.taskFor_eq]
    unfold settingsFor
    rw [hload]
    rfl

end Counterpart.CommandLine
