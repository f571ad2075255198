import Counterpart.Pattern.Matching
import Counterpart.Scan.Feed
import Counterpart.Scan.Script
import Counterpart.Scan.Walk
import Counterpart.Surroundings

/-!
# Scanners

A scanner is a way of scanning, a scan one use of it.  There are three: the line searcher, the walk, and a
script.  The user names one of the first two, or leaves the choice to whether the searcher is installed.
-/

namespace Counterpart

/-- A scan of any kind. -/
inductive Scan
  | ripgrep (scan : Ripgrep.Scan)
  | walk (scan : Walk.Scan)
  | scripted (scan : Script.Scan)
deriving Repr

/-- A turn whose state is seen as part of a larger one. -/
def Turn.mapState {σ τ α : Type} (f : σ → τ) (turn : Turn σ α) : Turn τ α :=
  ⟨turn.reply, f turn.state, turn.notes⟩

namespace Scan

/-- The next match. -/
def next : Scan → Turn Scan LineMatch
  | .ripgrep scan => scan.next.mapState .ripgrep
  | .walk scan => scan.next.mapState .walk
  | .scripted scan => scan.next.mapState .scripted

/-- The next match for one who cannot wait. -/
def nextAtOnce : Scan → Turn Scan LineMatch
  | .ripgrep scan => scan.nextAtOnce.mapState .ripgrep
  | scan => scan.next

/-- The scan closed. -/
def close : Scan → Scan
  | .ripgrep scan => .ripgrep scan.close
  | .walk scan => .walk scan.close
  | .scripted scan => .scripted scan.close

/-- A bound on the matches still to come. -/
def left : Scan → Nat
  | .ripgrep scan => scan.left
  | .walk scan => scan.left
  | .scripted scan => scan.left

/-- A match uses up one of those still to come. -/
theorem left_next {scan : Scan} {m : LineMatch} (h : scan.next.reply = .value m) :
    scan.next.state.left < scan.left := by
  cases scan with
  | ripgrep scan => exact Ripgrep.Scan.left_next h
  | walk scan => exact Walk.Scan.left_next h
  | scripted scan => exact Script.Scan.left_next h

instance : Feed Scan LineMatch := ⟨next, close, left, left_next⟩

end Scan

/-- A way of scanning. -/
inductive Scanner
  | ripgrep
  | walk
  | scripted (script : Script)
deriving Repr, DecidableEq

/-- The scan of a scanner for the lines below a directory that match a pattern. -/
def Scanner.scan (around : Surroundings) (root : Path) (pattern : Pattern) : Scanner → Scan
  | .ripgrep =>
    .ripgrep { root := root, pattern := pattern.source, nesting := around.nesting, launch := around.launch }
  | .walk => .walk (.start around.fs around.cwd root pattern.isFoundIn)
  | .scripted script => .scripted { root := root, pattern := pattern.source, script := script }

/-- The choice of a scanner. -/
inductive Tool
  | auto
  | ripgrep
  | walk
deriving Repr, DecidableEq

namespace Tool

/-- The name of a tool. -/
def name : Tool → String
  | .auto => "auto"
  | .ripgrep => "rg"
  | .walk => "walk"

/-- All tools. -/
def all : List Tool := [.auto, .ripgrep, .walk]

/-- The tool with a name. -/
def ofName? (name : Text) : Option Tool := all.find? fun tool => tool.name.toList = name

theorem ofName?_name (tool : Tool) : ofName? tool.name.toList = some tool := by cases tool <;> decide

/-- The tool that a value names; the value itself if it names none. -/
def ofValue (value : Json) : Except Json Tool :=
  match value with
  | .string name =>
    match ofName? name with
    | some tool => .ok tool
    | none => .error value
  | other => .error other

/-- The message about a value that names no tool. -/
def unknownMessage (value : Json) : String := "unknown search tool: " ++ Text.toString value.shown

/-- The scanner that a tool stands for. -/
def scanner (around : Surroundings) : Tool → Scanner × Journal
  | .ripgrep => (.ripgrep, [])
  | .walk => (.walk, [])
  | .auto =>
    if around.installed then (.ripgrep, [])
    else (.walk, [⟨.debug, .scan, "rg not found on PATH; using in-process walk"⟩])

end Tool

end Counterpart
