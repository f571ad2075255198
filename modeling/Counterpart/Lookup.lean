import Counterpart.Framework
import Counterpart.Probe
import Counterpart.Search

/-!
# Looking up companions

The companion of a source is a header: a sibling, else one in the header folders of the framework that the
source lies in.  The companion of a header is a source: a sibling, else the first source that is found to
include it.  That search has a time limit.  When it runs out, or when the search fails, there is no companion;
that is no error.
-/

namespace Counterpart

/-- How long a search may take, in seconds. -/
inductive TimeLimit
  | whole (seconds : Int)
  | fraction (seconds : Number.Binary64)
  /-- Something of another kind stands where a number should. -/
  | other (kind : String)
deriving Repr, DecidableEq

namespace TimeLimit

/-- The limit where none is given: fifteen seconds. -/
def defaultSeconds : Number.Binary64 := .ofRatio false 15 1

/-- The limit where none is given. -/
def default : TimeLimit := .fraction defaultSeconds

/-- Whether a limit has run out before anything can be done. -/
def isOver : TimeLimit → Bool
  | .whole n => n ≤ 0
  | .fraction x => x.isNonPositive
  | .other _ => false

/-- Whether a limit is no number: such a limit is over the first time that the search has to wait. -/
def isNaN : TimeLimit → Bool
  | .fraction x => x = .nan
  | .whole _ | .other _ => false

/-- Why a limit cannot be kept: it is too large to be timed, or not even comparable with a number. -/
inductive Fault
  | tooLarge
  | notComparable (kind : String)
deriving Repr, DecidableEq

/-- The message about a limit that cannot be kept. -/
def Fault.message : Fault → String
  | .tooLarge => "int too large to convert to float"
  | .notComparable kind => "'<=' not supported between instances of '" ++ kind ++ "' and 'int'"

/-- What is wrong with a limit, if it cannot be kept. -/
def fault? : TimeLimit → Option Fault
  | .whole n => if (Number.Binary64.ofInt? n).isNone then some .tooLarge else none
  | .fraction _ => none
  | .other kind => some (.notComparable kind)

/-- A limit as messages give it. -/
def text : TimeLimit → Text
  | .whole n => Json.intText n
  | .fraction x => x.shortest
  | .other kind => kind.toList

end TimeLimit

/-- Why there is no answer to a lookup. -/
inductive LookupError
  | argument (error : ArgumentError)
  | look (error : LookError)
  | limit (fault : TimeLimit.Fault)
  | scan (error : ScanError)
deriving Repr, DecidableEq

/-- The message for a failed lookup. -/
def LookupError.message : LookupError → String
  | .argument e => e.message
  | .look e => e.message
  | .limit fault => fault.message
  | .scan e => e.message

/-- What has come of a lookup: a companion, none, or an error; the scan that was made ready for it, if one was;
and the notes written on the way. -/
structure Report where
  result : Except LookupError (Option Path)
  scan : Option Scan := none
  notes : Journal := []

namespace Report

/-- The report of an error before any search. -/
def ofError (error : LookupError) : Report := { result := .error error }

/-- A report with notes that were written before. -/
def after (notes : Journal) (report : Report) : Report := { report with notes := notes ++ report.notes }

/-- The report on a probe. -/
def ofProbe : Except LookError (Option Path × Journal) → Report
  | .ok (found, notes) => { result := .ok found, notes := notes }
  | .error e => ofError (.look e)

end Report

namespace Lookup

/-! ## Headers -/

/-- The directories in which the header of a source may be. -/
def headerDirectories (source : Path) : List Path :=
  source.parent ::
    match Framework.ofDirectory? source.parent with
    | some framework => framework.headerDirectories
    | none => []

/-- Looks for the header of a source. -/
def header (around : Surroundings) (table : ExtensionTable) (source : Path) : Report :=
  let probe : Probe := ⟨table.basename source.text, .header, table⟩
  .ofProbe (probe.runAll around.fs around.cwd (headerDirectories source))

/-- Looks for the header of a source, for an argument as a caller gives it. -/
def headerForSource (around : Surroundings) (table : ExtensionTable) (source : Argument) : Report :=
  match source.require "source" around.cwd with
  | .ok source => header around table source
  | .error e => .ofError (.argument e)

/-! ## Searching for a source -/

/-- The report on a search that runs to its first value and is closed then. -/
def firstOf (search : Search) (notes : Journal) : Report :=
  let turn := search.next
  let report (result : Except LookupError (Option Path)) : Report :=
    ⟨result, some turn.state.close.scan, notes ++ turn.notes⟩
  match turn.reply with
  | .value found => report (.ok found)
  | .finished | .blocked => report (.ok none)
  | .failed e => report (.error (.scan e))

/-- Looks for the first source that is found to include a header. -/
def firstIncludingSource (around : Surroundings) (header project : Argument) (table : ExtensionTable)
    (scanner : Option Scanner) (directives : List Text) : Report :=
  match Search.ofArguments around header project table scanner directives with
  | .ok (search, notes) => firstOf search notes
  | .error e => .ofError (.argument e)

/-- The note about a search whose time has run out. -/
def timeoutNote (header : Path) (limit : TimeLimit) : Note :=
  ⟨.debug, .lookup,
    "include search for " ++ header.shown ++ " timed out after " ++ Text.toString limit.text ++ "s"⟩

/-- The note about a search that failed. -/
def failureNote (header : Path) (error : ScanError) : Note :=
  ⟨.warning, .lookup, "include search for " ++ header.shown ++ " failed: " ++ error.message⟩

/-- Whether a scan has had to wait: for its walk, or for the end of the line searcher. -/
def hasWaited : Scan → Bool
  | .walk _ => true
  | .ripgrep scan => scan.acts.contains .readEnd
  | .scripted _ => false

/-- What a search comes to within a limit.  One that is no number leaves no time to wait. -/
def turnWithin (limit : TimeLimit) (search : Search) : Turn Search (Option Path) :=
  if limit.isNaN then search.nextAtOnce else search.next

/-- Whether the time of a search runs out: nothing more comes of its scan, or the limit is no number and the scan
has had to wait. -/
def runsOut (limit : TimeLimit) (turn : Turn Search (Option Path)) : Bool :=
  turn.reply = .blocked || (limit.isNaN && hasWaited turn.state.scan)

/-- Whether a note is written before a scan comes to its end. -/
def isOnTheWay (note : Note) : Bool := note.origin = .scan && note.level = .debug

/-- The report on a search with a time limit.  If its time runs out, nothing is known of its end.  Only a breakdown of
the search is handed on as an error; had it been that something took too long, that would count as time running out,
whoever said so. -/
def firstWithin (limit : TimeLimit) (search : Search) (notes : Journal) : Report :=
  let turn := turnWithin limit search
  let header := search.query.header
  let report (result : Except LookupError (Option Path)) (more : Journal) : Report :=
    ⟨result, some turn.state.close.scan, notes ++ more⟩
  if runsOut limit turn then report (.ok none) (turn.notes.filter isOnTheWay ++ [timeoutNote header limit])
  else match turn.reply with
    | .value found => report (.ok found) turn.notes
    | .finished | .blocked => report (.ok none) turn.notes
    | .failed e =>
      if e.isSearchFailure then report (.ok none) (turn.notes ++ [failureNote header e])
      else report (.error (.scan e)) turn.notes

/-- Searches for a source that includes a header, as long as the limit allows. -/
def searchSource (around : Surroundings) (table : ExtensionTable) (scanner : Option Scanner)
    (limit : TimeLimit) (header project : Path) : Report :=
  if limit.isOver then { result := .ok none, notes := [timeoutNote header limit] }
  else match limit.fault? with
    | some fault => .ofError (.limit fault)
    | none =>
      let (search, notes) := Search.create around header project table scanner Include.defaultDirectives
      firstWithin limit search notes

/-! ## Sources -/

/-- Looks for the source of a header of a project. -/
def source (around : Surroundings) (table : ExtensionTable) (scanner : Option Scanner)
    (limit : Option TimeLimit) (header project : Path) : Report :=
  let probe : Probe := ⟨table.basename header.text, .source, table⟩
  match probe.run around.fs around.cwd header.parent with
  | .error e => .ofError (.look e)
  | .ok (some sibling, notes) => { result := .ok (some sibling), notes := notes }
  | .ok (none, notes) =>
    (searchSource around table scanner (limit.getD .default) header project).after notes

/-- Looks for the source of a header, for arguments as a caller gives them. -/
def sourceForHeader (around : Surroundings) (table : ExtensionTable) (scanner : Option Scanner)
    (limit : Option TimeLimit) (header project : Argument) : Report :=
  let paths : Except ArgumentError (Path × Path) := do
    return (← header.require "header" around.cwd, ← project.require "project_root" around.cwd)
  match paths with
  | .ok (header, project) => source around table scanner limit header project
  | .error e => .ofError (.argument e)

/-! ## Companions -/

/-- Looks for the companion of a file: the source of a header, or the header of a source.  The project only
matters for a header. -/
def companion (around : Surroundings) (table : ExtensionTable) (scanner : Option Scanner)
    (limit : Option TimeLimit) (path project : Argument) : Report :=
  match path.require "path" around.cwd with
  | .error e => .ofError (.argument e)
  | .ok path =>
    match table.role path.text with
    | .header => sourceForHeader around table scanner limit (.path path) project
    | .source => headerForSource around table (.path path)
    | .other => { result := .ok none }

end Lookup

end Counterpart
