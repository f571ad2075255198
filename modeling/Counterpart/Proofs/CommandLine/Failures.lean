import Counterpart.Proofs.CommandLine.Agreement
import Counterpart.Proofs.Lookup.Raising

/-!
# Runs that fail

A run ends with an answer or a message, whatever it is given and whatever it finds, except for what is listed here:
it is refused a look at its file or root, the time limit in the settings is too large, the value of a flag has got lost,
or a line of the searcher's output cannot be made sense of.

* `Passes.result_eq_error_iff`: what the lookup of a run raises;
* `Fails` and `run_failed_iff`: what a run fails with.
-/

namespace Counterpart.CommandLine

variable {around : Surroundings} {defaultRoot : Option Path} {line : List Text} {arguments : Arguments}
  {path root : Path} {settings : Settings}

/-- The tool of a run: that of the flag, or else of the settings. -/
def IsTool (settings : Settings) (arguments : Arguments) (tool : Tool) : Prop :=
  orConfigured arguments.tool settings.tool = .given tool

lemma tool_cases (settings : Settings) (arguments : Arguments) :
    arguments.tool = some .blank ∨ ∃ tool, IsTool settings arguments tool := by
  unfold IsTool
  cases htool : arguments.tool with
  | none => exact .inr ⟨settings.tool, rfl⟩
  | some value =>
    cases value with
    | blank => exact .inl rfl
    | given tool => exact .inr ⟨tool, rfl⟩

/-- What a run fails with: a check that cannot be made, a tool or a time limit that is left blank, or a line of the
searcher's output. -/
inductive Fails (around : Surroundings) (defaultRoot : Option Path) (arguments : Arguments) (path : Path) :
    RunError → Prop
  | check {e : RunError} (h : Breaks around defaultRoot arguments path e) : Fails around defaultRoot arguments path e
  | blankTool {root : Path} {settings : Settings} (hpasses : Passes around defaultRoot arguments path root settings)
      (h : arguments.tool = some .blank) : Fails around defaultRoot arguments path .blankTool
  | blankTimeout {root : Path} {settings : Settings} {tool : Tool}
      (hpasses : Passes around defaultRoot arguments path root settings) (htool : IsTool settings arguments tool)
      (hrole : settings.table.role path.text = .header)
      (hbegins : Lookup.BeginsSearch around settings.table (limitOf .blank) (path.absolute around.cwd))
      (h : arguments.timeout = some .blank) :
      Fails around defaultRoot arguments path (.lookup (.limit (.notComparable blankKind)))
  | event {root : Path} {settings : Settings} {tool : Tool} {e : ScanError}
      (hpasses : Passes around defaultRoot arguments path root settings) (htool : IsTool settings arguments tool)
      (hrole : settings.table.role path.text = .header)
      (hraises : Lookup.Raises around settings.table (some (tool.scanner around).1)
        (limitOf (orConfigured arguments.timeout settings.timeout)) (path.absolute around.cwd)
        (root.absolute around.cwd) (.scan e)) :
      Fails around defaultRoot arguments path (.lookup (.scan e))

lemma scanner_ne_scripted (around : Surroundings) (tool : Tool) (script : Script) :
    some (tool.scanner around).1 ≠ some (.scripted script) := by
  cases tool with
  | auto =>
    unfold Tool.scanner
    dsimp only
    split <;> simp
  | ripgrep => exact fun h => nomatch h
  | walk => exact fun h => nomatch h

/-- The lookup of a run raises what the lookup of a source raises. -/
lemma Passes.result_eq_error_iff (h : Passes around defaultRoot arguments path root settings)
    (hcwd : around.cwd.IsWorkingDirectory) (tool : Tool) (e : LookupError) :
    (lookupFor around settings arguments tool path root).result = .error e ↔
      settings.table.role path.text = .header ∧
        Lookup.Raises around settings.table (some (tool.scanner around).1)
          (limitOf (orConfigured arguments.timeout settings.timeout)) (path.absolute around.cwd)
          (root.absolute around.cwd) e := by
  obtain ⟨hpath, hroot⟩ := h.require
  have hnul : (path.absolute around.cwd).IsNulFree := Argument.isNulFree_of_require hcwd.nulFree hpath
  unfold lookupFor
  rw [Lookup.companion_eq hcwd hpath hroot, h.role_absolute]
  cases hrole : settings.table.role path.text with
  | header =>
    refine (Lookup.result_source_eq_error_iff _ _ _ hcwd.nulFree hnul (scanner_ne_scripted around tool) e).trans ?_
    exact ⟨fun hraises => ⟨rfl, hraises⟩, fun hraises => hraises.2⟩
  | source =>
    dsimp only
    rw [Lookup.result_header _ hcwd.nulFree hnul]
    simp
  | other => exact absurd hrole h.role

/-! ## Runs -/

variable {t : Text}

lemma IsTool.ofValue_eq {tool : Tool} (h : IsTool settings arguments tool) :
    Tool.ofValue (toolValue (orConfigured arguments.tool settings.tool)) = .ok tool := by
  rw [h]
  exact Tool.ofValue_name tool

lemma Passes.ending_of_blankTool (h : Passes around defaultRoot arguments (Path.ofText t) root settings)
    (hpath : arguments.path = some t) (htool : arguments.tool = some .blank) :
    (runWith around defaultRoot arguments).ending = .failed .blankTool := by
  have hvalue : Tool.ofValue (toolValue (orConfigured arguments.tool settings.tool)) = .error (.array []) := by
    rw [htool]
    rfl
  rw [h.run_of_noTool hpath hvalue]

/-- A run that has a tool fails with what its lookup raises, and with nothing else. -/
lemma Passes.ending_of_tool (h : Passes around defaultRoot arguments (Path.ofText t) root settings)
    (hcwd : around.cwd.IsWorkingDirectory) (hpath : arguments.path = some t) {tool : Tool}
    (htool : IsTool settings arguments tool) (e : RunError) :
    (runWith around defaultRoot arguments).ending = .failed e ↔
      ∃ e', e = .lookup e' ∧ (lookupFor around settings arguments tool (Path.ofText t) root).result = .error e' := by
  have hagrees := h.agrees hcwd hpath htool.ofValue_eq
  constructor
  · intro hending
    cases hresult : (lookupFor around settings arguments tool (Path.ofText t) root).result with
    | error e' =>
      obtain rfl := Ending.failed.inj ((hagrees.raised e' hresult).symm.trans hending)
      exact ⟨e', rfl, rfl⟩
    | ok found =>
      cases found with
      | none => exact absurd hending ((hagrees.none hresult).notFailed e)
      | some companion =>
        obtain ⟨-, -, hmessage⟩ := hagrees.found companion hresult
        rw [hending] at hmessage
        exact nomatch hmessage
  · rintro ⟨e', rfl, hresult⟩
    exact hagrees.raised e' hresult

lemma orConfigured_eq_blank_iff {α : Type} {flag : Option (FlagValue α)} {configured : α} :
    orConfigured flag configured = .blank ↔ flag = some .blank := by
  unfold orConfigured
  cases flag <;> simp

lemma fault?_limitOf (seconds : FlagValue Number.Binary64) (fault : TimeLimit.Fault) :
    (limitOf seconds).fault? = some fault ↔ seconds = .blank ∧ fault = .notComparable blankKind := by
  cases seconds with
  | given x => simp [limitOf, TimeLimit.fault?]
  | blank => simp [limitOf, TimeLimit.fault?, blankKind, eq_comm]

lemma Passes.fails_of_raises (h : Passes around defaultRoot arguments path root settings) {tool : Tool}
    (htool : IsTool settings arguments tool) (hrole : settings.table.role path.text = .header) {e : LookupError}
    (hraises : Lookup.Raises around settings.table (some (tool.scanner around).1)
      (limitOf (orConfigured arguments.timeout settings.timeout)) (path.absolute around.cwd)
      (root.absolute around.cwd) e) : Fails around defaultRoot arguments path (.lookup e) := by
  cases hraises with
  | limit fault hbegins hunkept =>
    obtain ⟨hblank, rfl⟩ := (fault?_limitOf _ fault).mp hunkept
    rw [hblank] at hbegins
    exact .blankTimeout h htool hrole hbegins (orConfigured_eq_blank_iff.mp hblank)
  | event e output hbegins hkept hsearcher hruns hinTime hbreaks =>
    exact .event h htool hrole (.event e output hbegins hkept hsearcher hruns hinTime hbreaks)

lemma Fails.ending_eq {e : RunError} (h : Fails around defaultRoot arguments (Path.ofText t) e)
    (hcwd : around.cwd.IsWorkingDirectory) (hpath : arguments.path = some t) :
    (runWith around defaultRoot arguments).ending = .failed e := by
  cases h with
  | check h => rw [runWith_of_error hpath h.taskFor_eq]
  | blankTool hpasses h => exact hpasses.ending_of_blankTool hpath h
  | blankTimeout hpasses htool hrole hbegins h =>
    refine (hpasses.ending_of_tool hcwd hpath htool _).mpr
      ⟨_, rfl, (hpasses.result_eq_error_iff hcwd _ _).mpr ⟨hrole, ?_⟩⟩
    rw [orConfigured_eq_blank_iff.mpr h]
    exact .limit _ hbegins rfl
  | event hpasses htool hrole hraises =>
    exact (hpasses.ending_of_tool hcwd hpath htool _).mpr
      ⟨_, rfl, (hpasses.result_eq_error_iff hcwd _ _).mpr ⟨hrole, hraises⟩⟩

lemma fails_of_ending {e : RunError} (hcwd : around.cwd.IsWorkingDirectory) (hpath : arguments.path = some t)
    (h : (runWith around defaultRoot arguments).ending = .failed e) :
    Fails around defaultRoot arguments (Path.ofText t) e := by
  rcases checks_cases around defaultRoot arguments (Path.ofText t) with
    ⟨message, hrefuses⟩ | ⟨e', hbreaks⟩ | ⟨root, settings, hpasses⟩
  · obtain ⟨ending, hmessage, htask⟩ := hrefuses.exists_taskFor_eq
    rw [runWith_of_error hpath htask] at h
    exact absurd h (hmessage.notFailed e)
  · rw [runWith_of_error hpath hbreaks.taskFor_eq] at h
    obtain rfl := Ending.failed.inj h
    exact .check hbreaks
  · rcases tool_cases settings arguments with hblank | ⟨tool, htool⟩
    · obtain rfl := Ending.failed.inj ((hpasses.ending_of_blankTool hpath hblank).symm.trans h)
      exact .blankTool hpasses hblank
    · obtain ⟨e', rfl, hresult⟩ := (hpasses.ending_of_tool hcwd hpath htool e).mp h
      obtain ⟨hrole, hraises⟩ := (hpasses.result_eq_error_iff hcwd tool e').mp hresult
      exact hpasses.fails_of_raises htool hrole hraises

/-- A run fails exactly with what is listed; all other runs end with an answer or a message.  Values of flags only get
lost where double dashes do. -/
theorem run_failed_iff (hcwd : around.cwd.IsWorkingDirectory) (defaultRoot : Option Path) (line : List Text)
    (e : RunError) :
    (run around defaultRoot line).ending = .failed e ↔
      ∃ arguments t, Arguments.read around.dropsDoubleDash line = .ok arguments ∧ arguments.help = false ∧
        arguments.path = some t ∧ (arguments.HasBlank → around.dropsDoubleDash = true) ∧
        Fails around defaultRoot arguments (Path.ofText t) e := by
  constructor
  · intro h
    cases hread : Arguments.read around.dropsDoubleDash line with
    | error usage =>
      unfold run at h
      rw [hread] at h
      exact nomatch h
    | ok arguments =>
      cases hhelp : arguments.help with
      | true =>
        unfold run at h
        rw [hread] at h
        dsimp only at h
        rw [if_pos hhelp] at h
        exact nomatch h
      | false =>
        have hreading := isReadingOf_of_read hread
        obtain ⟨t, hpath⟩ := hreading.path hhelp
        rw [run_eq_runWith hread hhelp] at h
        exact ⟨arguments, t, rfl, hhelp, hpath, hreading.drops_of_hasBlank, fails_of_ending hcwd hpath h⟩
  · rintro ⟨arguments, t, hread, hhelp, hpath, -, hfails⟩
    rw [run_eq_runWith hread hhelp]
    exact hfails.ending_eq hcwd hpath

/-- A file behind a directory that lets nobody look past it. -/
def behindRefusal : Surroundings where
  fs := (FileSystem.empty.put (Path.ofText "/q".toList).components { entry := .directory, statDenied := true })
  cwd := Path.root

/-- A run for the file fails, though its arguments are all right. -/
theorem run_failed_behindRefusal :
    behindRefusal.cwd.IsWorkingDirectory ∧
    (run behindRefusal none ["/q/a.h".toList]).ending =
      .failed (.look (.refused .denied (Path.ofText "/q/a.h".toList))) := by
  have hcwd : behindRefusal.cwd.IsWorkingDirectory := by
    refine ⟨rfl, ?_⟩
    unfold Path.IsNulFree
    decide
  have hfile : behindRefusal.fs.isFile behindRefusal.cwd (Path.ofText "/q/a.h".toList)
      = .error (.refused .denied (Path.ofText "/q/a.h".toList)) := by decide +kernel
  obtain ⟨fault, hrefuses, hfault⟩ := FileSystem.leadsTo_eq_error_iff.mp hfile
  obtain ⟨rfl, -⟩ := LookError.refused.inj hfault
  have hread : Arguments.read behindRefusal.dropsDoubleDash ["/q/a.h".toList]
      = .ok { path := some "/q/a.h".toList } := rfl
  have hnone : ¬ Arguments.HasBlank { path := some "/q/a.h".toList } := by simp [Arguments.HasBlank]
  exact ⟨hcwd, (run_failed_iff hcwd none _ _).mpr
    ⟨_, _, hread, rfl, rfl, fun hblank => absurd hblank hnone, .check (.file hrefuses)⟩⟩

end Counterpart.CommandLine
