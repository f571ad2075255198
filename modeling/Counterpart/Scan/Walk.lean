import Counterpart.Scan.Basic
import Counterpart.Text.Utf8

/-!
# Walking a directory tree

The walk reads the files below a directory itself, and puts each line to a test.  What it would do if nobody stopped
it is a list of steps.
Among them it asks again and again whether to go on, and what comes of a walk that is told to stop is read off
the same list.
-/

namespace Counterpart

namespace Walk

/-- A step of a walk. -/
inductive Step
  /-- Asks whether to go on to the next directory or file. -/
  | askPlace
  /-- Asks whether to go on with the next lines of a file. -/
  | askLines
  | found (m : LineMatch)
  | note (n : Note)
  /-- The walk cannot go on. -/
  | failed (error : LookError)
deriving Repr, DecidableEq

/-! ## The steps -/

/-- How many bytes at the beginning of a file tell whether it is binary. -/
def probeLength : Nat := 4096

/-- Whether the beginning of a file shows that it is binary. -/
def isBinary (data : Bytes) : Bool := (data.take probeLength).contains 0

/-- How many lines are read between two questions. -/
def blockLength : Nat := 256

/-- Whether a character belongs to a line end. -/
def isLineEnd (c : Char) : Bool := c = '\r' || c = '\n'

/-- The text of a line of a file, without its line end. -/
def lineText (line : Bytes) : Text := (Text.Utf8.decodeLossy line).trimEnd isLineEnd

/-- The step that a line of a file leads to. -/
def lineStep (test : Text → Bool) (file : Path) (line : Bytes) : List Step :=
  let text := lineText line
  if test text then [.found ⟨file, text⟩] else []

/-- The steps through the lines of a file. -/
def linesSteps (test : Text → Bool) (file : Path) (lines : List Bytes) : List Step :=
  lines.zipIdx.flatMap fun (line, index) =>
    (if index % blockLength = 0 then [.askLines] else []) ++ lineStep test file line

/-- The note about a file that cannot be read. -/
def unreadableNote (file : Path) (error : LookError) : Note :=
  ⟨.debug, .scan, "cannot read " ++ file.shown ++ ": " ++ error.message⟩

/-- The steps through a file.  Only what turns out to be a file is opened, and only the lines of one that is
not binary are read. -/
def fileSteps (fs : FileSystem) (cwd : Path) (test : Text → Bool) (file : Path) : List Step :=
  .askPlace ::
    match fs.isFile cwd file with
    | .error e => [.failed e]
    | .ok false => []
    | .ok true =>
      match fs.read cwd file with
      | .error e => [.note (unreadableNote file e)]
      | .ok data => if isBinary data then [] else linesSteps test file data.lines

/-- The steps through a directory and its files, those in its own directories not among them. -/
def directorySteps (fs : FileSystem) (cwd : Path) (test : Text → Bool) (dir : Path)
    (files : List Component) : List Step :=
  .askPlace :: files.flatMap fun file => fileSteps fs cwd test (dir.child file)

/-- The steps of the walk below a directory.  A path with a NUL cannot even be listed. -/
def steps (fs : FileSystem) (cwd : Path) (root : Path) (test : Text → Bool) : List Step :=
  match fs.list cwd root with
  | .error .nul => [.failed .nul]
  | _ => (fs.tree cwd root).flatMap fun (dir, files) => directorySteps fs cwd test dir files

/-! ## A walk that is told to stop -/

/-- What has come of a walk: what it found, how often it asked, and what it failed on. -/
structure Outcome where
  found : List LineMatch
  asked : Nat
  error : Option LookError
deriving Repr, DecidableEq

namespace Outcome

/-- An outcome after one question more at the beginning. -/
def askedFirst (o : Outcome) : Outcome := { o with asked := o.asked + 1 }

/-- An outcome with one match more at the beginning. -/
def foundFirst (m : LineMatch) (o : Outcome) : Outcome := { o with found := m :: o.found }

/-- What comes of some steps if the first `allowance` questions are answered with yes and all others with no;
without an allowance the answer is always yes.  A no before some lines gives up the file, and the question for
the next place, if there is one, is then in vain. -/
def ofSteps (allowance : Option Nat) : List Step → Outcome
  | [] => ⟨[], 0, none⟩
  | .askPlace :: rest =>
    if allowance = some 0 then ⟨[], 1, none⟩ else (ofSteps (allowance.map (· - 1)) rest).askedFirst
  | .askLines :: rest =>
    if allowance = some 0 then ⟨[], if rest.contains .askPlace then 2 else 1, none⟩
    else (ofSteps (allowance.map (· - 1)) rest).askedFirst
  | .found m :: rest => (ofSteps allowance rest).foundFirst m
  | .note _ :: rest => ofSteps allowance rest
  | .failed e :: _ => ⟨[], 0, some e⟩

end Outcome

/-! ## The walk as a scan -/

/-- A scan by walking: the steps that are still to be done. -/
structure Scan where
  root : Path
  rest : List Step
deriving Repr

namespace Scan

/-- The walk of a file system below a directory. -/
def start (fs : FileSystem) (cwd : Path) (root : Path) (test : Text → Bool) : Scan :=
  ⟨root, steps fs cwd root test⟩

/-- Goes on to the next match; the notes are those written on the way, last first. -/
def pull (root : Path) (notes : Journal) : List Step → Turn Scan LineMatch
  | [] => ⟨.finished, ⟨root, []⟩, notes.reverse⟩
  | .found m :: rest => ⟨.value m, ⟨root, rest⟩, notes.reverse⟩
  | .failed e :: _ => ⟨.failed (.walk root e), ⟨root, []⟩, notes.reverse⟩
  | .note n :: rest => pull root (n :: notes) rest
  | .askPlace :: rest => pull root notes rest
  | .askLines :: rest => pull root notes rest

/-- The next match. -/
def next (scan : Scan) : Turn Scan LineMatch := pull scan.root [] scan.rest

/-- The scan closed: nothing is left to do. -/
def close (scan : Scan) : Scan := { scan with rest := [] }

/-- A bound on the matches still to come. -/
def left (scan : Scan) : Nat := scan.rest.length

theorem left_pull {root : Path} {notes : Journal} {steps : List Step} {m : LineMatch}
    (h : (pull root notes steps).reply = .value m) :
    (pull root notes steps).state.left < steps.length := by
  induction steps generalizing notes with
  | nil => simp [pull] at h
  | cons s rest ih =>
    cases s with
    | found m' => exact Nat.lt_succ_self _
    | failed e => simp [pull] at h
    | note n => exact Nat.lt_succ_of_lt (ih h)
    | askPlace => exact Nat.lt_succ_of_lt (ih h)
    | askLines => exact Nat.lt_succ_of_lt (ih h)

/-- A match uses up one of those still to come. -/
theorem left_next {scan : Scan} {m : LineMatch} (h : scan.next.reply = .value m) :
    scan.next.state.left < scan.left := left_pull h

end Scan

end Walk

end Counterpart
