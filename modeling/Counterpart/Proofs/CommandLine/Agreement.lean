import Counterpart.Proofs.CommandLine.Checks
import Counterpart.Proofs.FileSystem.Ascent
import Counterpart.Proofs.Lookup.Arguments
import Counterpart.Proofs.Path.LastPart

/-!
# Runs and lookups

When its checks succeed a run comes to what the lookup of the companion comes to, with the time limit and the tool that
flags or settings name.  When one fails, nothing is looked up at all.

* `Passes.role_absolute`: the file has the same role for the run and for the lookup;
* `Agrees`: a run comes to what a lookup comes to;
* `run_agreesWithLookup`: all runs with accepted arguments.
-/

namespace Counterpart

/-- The name of a tool is a value that names it. -/
lemma Tool.ofValue_name (tool : Tool) : Tool.ofValue (.string tool.name.toList) = .ok tool := by
  unfold Tool.ofValue
  dsimp only
  rw [Tool.ofName?_name]

namespace CommandLine

open Number (Binary64)

variable {around : Surroundings} {defaultRoot : Option Path} {line : List Text} {arguments : Arguments}
  {path root : Path} {settings : Settings}

/-! ## What is handed on -/

/-- The value of a flag, or what is configured in its place. -/
def orConfigured {α : Type} (flag : Option (FlagValue α)) (configured : α) : FlagValue α :=
  flag.getD (.given configured)

/-- A time limit as a lookup takes it; a blank one is an empty list. -/
def limitOf : FlagValue Binary64 → TimeLimit
  | .given seconds => .fraction seconds
  | .blank => .other (Json.array []).kindName

/-- A tool as the choice of a scanner takes it; a blank one is an empty list. -/
def toolValue : FlagValue Tool → Json
  | .given tool => .string tool.name.toList
  | .blank => .array []

lemma limitFor_eq (settings : Settings) (arguments : Arguments) :
    limitFor settings arguments = limitOf (orConfigured arguments.timeout settings.timeout) := by
  unfold limitFor
  cases arguments.timeout with
  | none => rfl
  | some value => cases value <;> rfl

lemma toolFor_eq (settings : Settings) (arguments : Arguments) :
    toolFor settings arguments =
      (Tool.ofValue (toolValue (orConfigured arguments.tool settings.tool))).mapError fun _ => .failed .blankTool := by
  unfold toolFor
  cases arguments.tool with
  | none =>
    show _ = (Tool.ofValue (.string settings.tool.name.toList)).mapError _
    rw [Tool.ofValue_name]
    rfl
  | some value =>
    cases value with
    | blank => rfl
    | given tool =>
      show _ = (Tool.ofValue (.string tool.name.toList)).mapError _
      rw [Tool.ofValue_name]
      rfl

/-! ## Roles -/

/-- A file with a role has a name, which is not the way up. -/
lemma Passes.exists_name (h : Passes around defaultRoot arguments path root settings) :
    ∃ cs c, path.components = cs ++ [c] ∧ c ≠ .up := by
  have hfollows : Settings.Follows (Settings.loadConfig around) settings :=
    Settings.follows_of_ofConfig h.load
  have hheaders := Settings.extension_ne_nil hfollows.headers (by decide)
  have hsources := Settings.extension_ne_nil hfollows.sources (by decide)
  rcases path.components.eq_nil_or_concat' with hnil | ⟨cs, c, hcs⟩
  · exact absurd (Path.role_of_noComponents hheaders hsources hnil) h.role
  · exact ⟨cs, c, hcs, FileSystem.ne_up_of_isFile h.file hcs⟩

/-- The file has the same role for the run and for the lookup, which looks at its absolute path. -/
lemma Passes.role_absolute (h : Passes around defaultRoot arguments path root settings) :
    settings.table.role (path.absolute around.cwd).text = settings.table.role path.text := by
  obtain ⟨cs, c, hcs, hc⟩ := h.exists_name
  exact Path.role_absolute settings.table hcs hc around.cwd

/-- The lookup accepts what the checks have let through. -/
lemma Passes.require (h : Passes around defaultRoot arguments path root settings) :
    (Argument.path path).require "path" around.cwd = .ok (path.absolute around.cwd) ∧
      (Argument.path root).require "project_root" around.cwd = .ok (root.absolute around.cwd) :=
  ⟨Argument.require_of_isNulFree (FileSystem.isNulFree_of_leadsTo h.file) _ _,
    Argument.require_of_isNulFree (FileSystem.isNulFree_of_leadsTo h.directory) _ _⟩

/-! ## Runs -/

/-- A run comes to what a lookup comes to. -/
structure Agrees (path : Path) (report : Report) (run : Run) : Prop where
  found : ∀ companion, report.result = .ok (some companion) →
    run.ending.output = companion.text ++ ['\n'] ∧ run.ending.status = 0 ∧ run.ending.message? = none
  none : report.result = .ok none → run.ending.IsMessage ("No companion file found for " ++ path.shown ++ ".")
  raised : ∀ e, report.result = .error e → run.ending = .failed (.lookup e)
  noArgument : ∀ e, report.result ≠ .error (.argument e)
  noInvalidPath : ∀ e, run.ending ≠ .invalidPath e
  scan : run.scan = report.scan

/-- The lookup that a run makes. -/
def lookupFor (around : Surroundings) (settings : Settings) (arguments : Arguments) (tool : Tool) (path root : Path) :
    Report :=
  Lookup.companion around settings.table (some (tool.scanner around).1)
    (some (limitOf (orConfigured arguments.timeout settings.timeout))) (.path path) (.path root)

lemma Passes.result_ne_argument (h : Passes around defaultRoot arguments path root settings)
    (hcwd : around.cwd.IsWorkingDirectory) (tool : Tool) (e : ArgumentError) :
    (lookupFor around settings arguments tool path root).result ≠ .error (.argument e) := by
  obtain ⟨hpath, hroot⟩ := h.require
  unfold lookupFor
  rw [Lookup.companion_eq hcwd hpath hroot]
  cases settings.table.role (path.absolute around.cwd).text with
  | header => exact Lookup.result_source_ne_argument around _ _ _ _ _ e
  | source => exact Lookup.result_header_ne_argument around _ _ e
  | other => exact fun h => nomatch h

lemma endingOf_ne_invalidPath {result : Except LookupError (Option Path)} (h : ∀ e, result ≠ .error (.argument e))
    (path : Path) (e : ArgumentError) : endingOf path result ≠ .invalidPath e := by
  unfold endingOf
  split
  · exact fun h => nomatch h
  · exact fun h => nomatch h
  · next e' => exact absurd rfl (h e')
  · exact fun h => nomatch h

lemma agrees_endingOf {report : Report} {run : Run} (hending : run.ending = endingOf path report.result)
    (hscan : run.scan = report.scan) (hargument : ∀ e, report.result ≠ .error (.argument e)) :
    Agrees path report run := by
  refine ⟨?_, ?_, ?_, hargument, ?_, hscan⟩
  · intro companion h
    rw [hending, h]
    exact ⟨rfl, rfl, rfl⟩
  · intro h
    rw [hending, h]
    exact ⟨rfl, rfl, rfl, by simp [endingOf]⟩
  · intro e h
    rw [hending, h]
    cases e with
    | argument e => exact absurd h (hargument e)
    | _ => rfl
  · intro e
    rw [hending]
    exact endingOf_ne_invalidPath hargument path e

lemma run_eq_runWith (hread : Arguments.read around.dropsDoubleDash line = .ok arguments)
    (hhelp : arguments.help = false) :
    run around defaultRoot line = runWith around defaultRoot arguments := by
  unfold run
  rw [hread]
  dsimp only
  rw [hhelp, if_neg Bool.false_ne_true]

variable {t : Text}

/-- A run without a task ends there. -/
lemma runWith_of_error (hpath : arguments.path = some t) {ending : Ending}
    (h : taskFor around defaultRoot (Path.ofText t) arguments = .error ending) :
    runWith around defaultRoot arguments = { ending := ending, verbose := arguments.verbose } := by
  unfold runWith
  rw [hpath]
  dsimp only [Option.getD_some]
  rw [h]

/-- A run with a task makes its lookup. -/
lemma runWith_of_task (hpath : arguments.path = some t) {task : Task}
    (h : taskFor around defaultRoot (Path.ofText t) arguments = .ok task) :
    runWith around defaultRoot arguments =
      { ending := endingOf (Path.ofText t)
          (lookupFor around task.settings arguments task.tool (Path.ofText t) task.root).result
        verbose := arguments.verbose
        notes := (task.tool.scanner around).2 ++
          (lookupFor around task.settings arguments task.tool (Path.ofText t) task.root).notes
        scan := (lookupFor around task.settings arguments task.tool (Path.ofText t) task.root).scan } := by
  unfold runWith lookupFor
  rw [hpath]
  dsimp only [Option.getD_some]
  rw [h]
  dsimp only
  rw [limitFor_eq]

/-- A run whose checks succeed takes the tool, and then makes its lookup. -/
lemma Passes.agrees (h : Passes around defaultRoot arguments (Path.ofText t) root settings)
    (hcwd : around.cwd.IsWorkingDirectory) (hpath : arguments.path = some t) {tool : Tool}
    (htool : Tool.ofValue (toolValue (orConfigured arguments.tool settings.tool)) = .ok tool) :
    Agrees (Path.ofText t) (lookupFor around settings arguments tool (Path.ofText t) root)
      (runWith around defaultRoot arguments) := by
  have htask : taskFor around defaultRoot (Path.ofText t) arguments = .ok ⟨root, settings, tool⟩ := by
    rw [h.taskFor_eq, toolFor_eq, htool]
    rfl
  rw [runWith_of_task hpath htask]
  exact agrees_endingOf rfl rfl (h.result_ne_argument hcwd tool)

/-- A run whose checks succeed breaks off if what stands for the tool is not one. -/
lemma Passes.run_of_noTool (h : Passes around defaultRoot arguments (Path.ofText t) root settings)
    (hpath : arguments.path = some t) {value : Json}
    (htool : Tool.ofValue (toolValue (orConfigured arguments.tool settings.tool)) = .error value) :
    runWith around defaultRoot arguments = { ending := .failed .blankTool, verbose := arguments.verbose } := by
  refine runWith_of_error hpath ?_
  rw [h.taskFor_eq, toolFor_eq, htool]
  rfl

/-- What a run with accepted arguments comes to. -/
structure IsOutcome (around : Surroundings) (defaultRoot : Option Path) (arguments : Arguments) (path : Path)
    (run : Run) : Prop where
  cases : (∃ message, Refuses around defaultRoot arguments path message) ∨
    (∃ e, Breaks around defaultRoot arguments path e) ∨
    ∃ root settings, Passes around defaultRoot arguments path root settings
  refused : ∀ message, Refuses around defaultRoot arguments path message →
    run.ending.IsMessage message ∧ run.scan = none ∧ run.notes = []
  broken : ∀ e, Breaks around defaultRoot arguments path e → run.ending = .failed e ∧ run.scan = none
  role : ∀ root settings, Passes around defaultRoot arguments path root settings →
    ∃ target, (Argument.path path).require "path" around.cwd = .ok target ∧
      settings.table.role target.text = settings.table.role path.text
  lookup : ∀ root settings, Passes around defaultRoot arguments path root settings →
    ∀ tool, Tool.ofValue (toolValue (orConfigured arguments.tool settings.tool)) = .ok tool →
      Agrees path (lookupFor around settings arguments tool path root) run
  noTool : ∀ root settings, Passes around defaultRoot arguments path root settings →
    ∀ value, Tool.ofValue (toolValue (orConfigured arguments.tool settings.tool)) = .error value →
      run.ending = .failed .blankTool ∧ run.scan = none

/-- A run with accepted arguments ends with the message of the first check that fails, or comes to what the lookup comes
to with the time limit and the tool of the flags, or else of the settings. -/
theorem run_agreesWithLookup (hcwd : around.cwd.IsWorkingDirectory)
    (hread : Arguments.read around.dropsDoubleDash line = .ok arguments) (hhelp : arguments.help = false)
    (defaultRoot : Option Path) :
    ∃ t, arguments.path = some t ∧
      IsOutcome around defaultRoot arguments (Path.ofText t) (run around defaultRoot line) := by
  obtain ⟨t, hpath⟩ := (isReadingOf_of_read hread).path hhelp
  refine ⟨t, hpath, ?_⟩
  rw [run_eq_runWith hread hhelp]
  refine ⟨checks_cases around defaultRoot arguments (Path.ofText t), ?_, ?_, ?_, ?_, ?_⟩
  · intro message h
    obtain ⟨ending, hmessage, htask⟩ := h.exists_taskFor_eq
    rw [runWith_of_error hpath htask]
    exact ⟨hmessage, rfl, rfl⟩
  · intro e h
    rw [runWith_of_error hpath h.taskFor_eq]
    exact ⟨rfl, rfl⟩
  · exact fun root settings h => ⟨_, h.require.1, h.role_absolute⟩
  · exact fun root settings h tool htool => h.agrees hcwd hpath htool
  · intro root settings h value htool
    rw [h.run_of_noTool hpath htool]
    exact ⟨rfl, rfl⟩

/-- A path with a detour leads to the header beside the source, and one to nowhere to a message. -/
theorem run_agreesWithLookup_sourceAndHeader :
    (run Lookup.sourceAndHeader none ["/p/../p//a.c".toList]).ending.output = "/p/a.h\n".toList ∧
    (run Lookup.sourceAndHeader none ["/p/b.c".toList]).ending.IsMessage "Path not found: /p/b.c" := by
  have hcwd : Lookup.sourceAndHeader.cwd.IsWorkingDirectory := by
    refine ⟨rfl, ?_⟩
    unfold Path.IsNulFree
    decide
  constructor
  · have hread : Arguments.read Lookup.sourceAndHeader.dropsDoubleDash ["/p/../p//a.c".toList]
        = .ok { path := some "/p/../p//a.c".toList } := rfl
    obtain ⟨t, ht, houtcome⟩ := run_agreesWithLookup hcwd hread rfl none
    obtain rfl := Option.some.inj ht
    have hpasses : Passes Lookup.sourceAndHeader none { path := some "/p/../p//a.c".toList }
        (Path.ofText "/p/../p//a.c".toList) Path.root ⟨.default, TimeLimit.defaultSeconds, .auto⟩ := by
      refine ⟨⟨?_, .working rfl rfl, ?_⟩, rfl, ?_⟩
      · decide +kernel
      · decide +kernel
      · decide +kernel
    have hagrees := houtcome.lookup _ _ hpasses .auto rfl
    refine (hagrees.found (Path.ofText "/p/a.h".toList) ?_).1
    decide +kernel
  · have hread : Arguments.read Lookup.sourceAndHeader.dropsDoubleDash ["/p/b.c".toList]
        = .ok { path := some "/p/b.c".toList } := rfl
    obtain ⟨t, ht, houtcome⟩ := run_agreesWithLookup hcwd hread rfl none
    obtain rfl := Option.some.inj ht
    exact (houtcome.refused _ (.file (by decide +kernel))).1

end CommandLine

end Counterpart
