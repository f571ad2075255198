import Counterpart.CommandLine.Arguments
import Counterpart.Settings

/-!
# The command line

One run of the command looks up one companion and writes its path.  Everything else is a message: that the
arguments are wrong, that a file or directory is not there, that the file has no companion.
-/

namespace Counterpart

namespace CommandLine

/-- Why a run ends with something else than an answer or a message. -/
inductive RunError
  | look (error : LookError)
  /-- The root is left blank. -/
  | blankRoot
  /-- The tool is left blank. -/
  | blankTool
  | settings (error : TimeoutTooLarge)
  | lookup (error : LookupError)
deriving Repr, DecidableEq

/-- The kind of value that a blank is, as messages give it. -/
def blankKind : String := (Json.array []).kindName

/-- The message for such an end. -/
def RunError.message : RunError → String
  | .look e => e.message
  | .blankRoot => (ArgumentError.noConversion blankKind).message
  | .blankTool => Tool.unknownMessage (.array [])
  | .settings e => e.message
  | .lookup e => e.message

/-- How a run ends. -/
inductive Ending
  | found (companion : Path)
  | help
  | usage (error : UsageError)
  | fileMissing (path : Path)
  | rootMissing (root : Path)
  | unclassified (path : Path)
  | invalidPath (error : ArgumentError)
  | noCompanion (path : Path)
  | failed (error : RunError)
deriving Repr

/-- How the command is used, in one line.  The rest of the help, and where lines are broken, is left open. -/
def usageLine : String :=
  "usage: companionfile [-h] [--root ROOT] [--timeout TIMEOUT] [--tool \x7bauto,rg,walk\x7d] [-v] path"

namespace Ending

/-- What is written on standard output. -/
def output : Ending → Text
  | .found companion => companion.text ++ ['\n']
  | .help => usageLine.toList ++ ['\n']
  | _ => []

/-- The status that a run ends with. -/
def status : Ending → UInt32
  | .found _ | .help => 0
  | .usage _ => 2
  | _ => 1

/-- The message that a run ends with, if it ends with one. -/
def message? : Ending → Option String
  | .found _ | .help => none
  | .usage e => some (Text.toString e.message)
  | .fileMissing path => some ("Path not found: " ++ path.shown)
  | .rootMissing root => some ("Project root is not a directory: " ++ root.shown)
  | .unclassified path => some ("Not a header or source file: " ++ path.shown)
  | .invalidPath e => some e.message
  | .noCompanion path => some ("No companion file found for " ++ path.shown ++ ".")
  | .failed e => some e.message

end Ending

/-- One run: how it ended, whether it was told to be verbose, the notes written on the way, and the scan that
was made ready for it. -/
structure Run where
  ending : Ending
  verbose : Bool := false
  notes : Journal := []
  scan : Option Scan := none

/-- Whether a note is shown. -/
def isShown (verbose : Bool) (note : Note) : Bool := verbose || note.level = .warning

/-- What a run writes on standard error besides its message: a line for each note that is shown. -/
def Run.shownText (run : Run) : Text :=
  (run.notes.filter (isShown run.verbose)).flatMap fun note => note.line.toList ++ ['\n']

/-- The ending that the result of a lookup leads to. -/
def endingOf (path : Path) : Except LookupError (Option Path) → Ending
  | .ok (some companion) => .found companion
  | .ok none => .noCompanion path
  | .error (.argument e) =>
    if e.isInvalidPath then .invalidPath e else .failed (.lookup (.argument e))
  | .error e => .failed (.lookup e)

/-- The root for a run: the one given, else the default root, else the working directory. -/
def rootFor (around : Surroundings) (defaultRoot : Option Path) (arguments : Arguments) :
    Except Ending Path :=
  match arguments.root with
  | some (.given root) => .ok (Path.ofText root)
  | some .blank => .error (.failed .blankRoot)
  | none => .ok (defaultRoot.getD around.cwd)

/-- What an answer about a file or directory comes to if it has to be there. -/
def demand (there : Except LookError Bool) (missing : Ending) : Except Ending Unit :=
  match there with
  | .ok true => .ok ()
  | .ok false => .error missing
  | .error e => .error (.failed (.look e))

/-- The settings for a run, if the file has a role under them. -/
def settingsFor (around : Surroundings) (path : Path) : Except Ending Settings :=
  match Settings.load around with
  | .error e => .error (.failed (.settings e))
  | .ok settings =>
    if settings.table.role path.text = .other then .error (.unclassified path) else .ok settings

/-- The time limit for a run. -/
def limitFor (settings : Settings) (arguments : Arguments) : TimeLimit :=
  match arguments.timeout with
  | some (.given seconds) => .fraction seconds
  | some .blank => .other blankKind
  | none => .fraction settings.timeout

/-- The tool for a run. -/
def toolFor (settings : Settings) (arguments : Arguments) : Except Ending Tool :=
  match arguments.tool with
  | some (.given tool) => .ok tool
  | some .blank => .error (.failed .blankTool)
  | none => .ok settings.tool

/-- What a run looks up, and with what. -/
structure Task where
  root : Path
  settings : Settings
  tool : Tool

/-- What a run for a file looks up, if nothing speaks against it.  The file has to be there, then the root, then
the file needs a role. -/
def taskFor (around : Surroundings) (defaultRoot : Option Path) (path : Path)
    (arguments : Arguments) : Except Ending Task := do
  demand (around.fs.isFile around.cwd path) (.fileMissing path)
  let root ← rootFor around defaultRoot arguments
  demand (around.fs.isDirectory around.cwd root) (.rootMissing root)
  let settings ← settingsFor around path
  return ⟨root, settings, ← toolFor settings arguments⟩

/-- A run with arguments that are accepted.  What they leave open is taken from the settings. -/
def runWith (around : Surroundings) (defaultRoot : Option Path)
    (arguments : Arguments) : Run :=
  let path := Path.ofText (arguments.path.getD [])
  match taskFor around defaultRoot path arguments with
  | .error ending => { ending := ending, verbose := arguments.verbose }
  | .ok task =>
    let (scanner, notes) := task.tool.scanner around
    let report := Lookup.companion around task.settings.table (some scanner)
      (some (limitFor task.settings arguments)) (.path path) (.path task.root)
    { ending := endingOf path report.result, verbose := arguments.verbose
      notes := notes ++ report.notes, scan := report.scan }

/-- A run of the command with some arguments. -/
def run (around : Surroundings) (defaultRoot : Option Path) (line : List Text) : Run :=
  match Arguments.read around.dropsDoubleDash line with
  | .error e => { ending := .usage e }
  | .ok arguments =>
    if arguments.help then { ending := .help } else runWith around defaultRoot arguments

end CommandLine

end Counterpart
