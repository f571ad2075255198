import Counterpart.Lookup

/-!
# Settings

What the user has configured, read from an object of named values.  Every value is looked at on its own, and one
that makes no sense counts as missing, so that it keeps its default and does no harm to the others.
-/

namespace Counterpart

/-- The settings for lookups. -/
structure Settings where
  table : ExtensionTable
  timeout : Number.Binary64
  tool : Tool
deriving Repr

/-- A configured number of seconds that is too large for a number of seconds. -/
structure TimeoutTooLarge where
  seconds : Int
deriving Repr, DecidableEq

/-- The message about a number of seconds that is too large. -/
def TimeoutTooLarge.message (_ : TimeoutTooLarge) : String := TimeLimit.Fault.tooLarge.message

namespace Settings

/-! ## Values -/

/-- The text that a value is. -/
def text? : Json → Option Text
  | .string t => some t
  | _ => none

/-- The list of texts that a value is. -/
def texts? : Json → Option (List Text)
  | .array items => items.mapM text?
  | _ => none

/-- The list of texts configured under a name. -/
def textsAt? (config : Json) (name : String) : Option (List Text) := (config.field? name.toList).bind texts?

/-- The list of texts configured under a name, if it is not empty. -/
def someTextsAt? (config : Json) (name : String) : Option (List Text) :=
  (textsAt? config name).filter (· ≠ [])

/-! ## Settings -/

/-- The configured table; if nothing is configured for it, the default one. -/
def tableOf (config : Json) : ExtensionTable :=
  match someTextsAt? config "header_extensions", someTextsAt? config "source_extensions",
      textsAt? config "companion_suffixes" with
  | none, none, none => .default
  | headers, sources, suffixes => .ofLists headers sources suffixes

/-- The configured time limit; one that is no positive number is replaced by the default. -/
def timeoutOf (config : Json) : Except TimeoutTooLarge Number.Binary64 :=
  match config.field? "include_search_timeout_seconds".toList with
  | some (.int n) =>
    if n ≤ 0 then .ok TimeLimit.defaultSeconds
    else match Number.Binary64.ofInt? n with
      | some x => .ok x
      | none => .error ⟨n⟩
  | some (.float x) => .ok (if x.isNonPositive then TimeLimit.defaultSeconds else x)
  | _ => .ok TimeLimit.defaultSeconds

/-- The configured tool. -/
def toolOf (config : Json) : Tool :=
  (((config.field? "search_tool".toList).bind text?).bind Tool.ofName?).getD .auto

/-- The configured settings. -/
def ofConfig (config : Json) : Except TimeoutTooLarge Settings := do
  let timeout ← timeoutOf config
  return { table := tableOf config, timeout := timeout, tool := toolOf config }

/-! ## The settings file -/

/-- The object that a settings file holds; the empty one if it holds none, or one nested too deep. -/
def configOf (nesting : Nat) (data : Bytes) : Json :=
  match (Text.Utf8.decode? data).map (Json.read nesting) with
  | some (.ok (.object members)) => .object members
  | _ => .object []

/-- The object in the settings file; the empty one if the file cannot be read. -/
def loadConfig (around : Surroundings) : Json :=
  match around.fs.read around.cwd around.settingsFile with
  | .ok data => configOf around.nesting data
  | .error _ => .object []

/-- The settings in the settings file. -/
def load (around : Surroundings) : Except TimeoutTooLarge Settings := ofConfig (loadConfig around)

/-- The names in an object, in the order of code points. -/
def names : Json → List Text
  | .object members => Text.sortedSet (members.map (·.1))
  | _ => []

end Settings

end Counterpart
