import Counterpart.Scan.Walk

/-!
# Loops that ask whether to stop

A walk is three loops, one inside the other: over the directories, over the files of a directory, and over the lines
of a file.  Each of them asks from time to time whether to stop.  The two outer loops then end the walk, but the inner
one only ends the file.  This module has the loops as they are, for whatever is answered to the questions.
-/

namespace Counterpart

namespace Walk

/-- Something that happens in a walk. -/
inductive Moment
  /-- It asks whether to stop, and is answered. -/
  | asked (stop : Bool)
  | found (m : LineMatch)
  | noted (n : Note)
deriving Repr, DecidableEq

namespace Moment

/-- Whether something is asked. -/
def isQuestion : Moment → Bool
  | .asked _ => true
  | _ => false

/-- The match that is found. -/
def match? : Moment → Option LineMatch
  | .found m => some m
  | _ => none

end Moment

/-- How a part of a walk ends. -/
inductive Ending
  /-- It comes to its end. -/
  | through
  | stopped
  /-- The walk cannot go on. -/
  | failed (error : LookError)
deriving Repr, DecidableEq

/-- What a walk has failed on. -/
def Ending.error? : Ending → Option LookError
  | .failed e => some e
  | _ => none

/-- What happens in a part of a walk, and how it ends. -/
structure Course where
  moments : List Moment
  ending : Ending
deriving Repr, DecidableEq

namespace Course

/-- How often it is asked whether to stop. -/
def asked (course : Course) : Nat := course.moments.countP Moment.isQuestion

/-- What is found. -/
def found (course : Course) : List LineMatch := course.moments.filterMap Moment.match?

/-- What comes of it. -/
def outcome (course : Course) : Outcome := ⟨course.found, course.asked, course.ending.error?⟩

end Course

/-! ## Parts of a walk -/

/-- A part of a walk: what happens in it, by the number of questions that have been asked before. -/
abbrev Part := Nat → Course

namespace Part

/-- Nothing is done. -/
def nothing : Part := fun _ => ⟨[], .through⟩

/-- One thing happens, and no question is asked. -/
def happens (moment : Moment) : Part := fun _ => ⟨[moment], .through⟩

/-- The walk fails. -/
def fails (error : LookError) : Part := fun _ => ⟨[], .failed error⟩

/-- Asks whether to stop; `stop` has the answers, first ones first. -/
def ask (stop : Nat → Bool) : Part := fun asked =>
  ⟨[.asked (stop asked)], if stop asked then .stopped else .through⟩

/-- One part and then another one, which is left out if the first does not come to its end. -/
def andThen (first second : Part) : Part := fun asked =>
  let course := first asked
  if course.ending = .through then
    let more := second (asked + course.asked)
    ⟨course.moments ++ more.moments, more.ending⟩
  else course

/-- A loop: one part for each element of a list. -/
def each {α : Type} (part : α → Part) : List α → Part
  | [] => nothing
  | a :: rest => (part a).andThen (each part rest)

/-- A part that may be stopped, and what comes behind it goes on nevertheless. -/
def alone (part : Part) : Part := fun asked =>
  let course := part asked
  if course.ending = .stopped then { course with ending := .through } else course

end Part

/-! ## The loops -/

/-- A line of a file and its number: before some of the lines a question is asked. -/
def linePart (stop : Nat → Bool) (test : Text → Bool) (file : Path) : Bytes × Nat → Part
  | (line, index) =>
    (if index % blockLength = 0 then Part.ask stop else Part.nothing).andThen
      (if test (lineText line) then .happens (.found ⟨file, lineText line⟩) else .nothing)

/-- The lines of a file, as far as it can be read and is not binary. -/
def contentPart (stop : Nat → Bool) (fs : FileSystem) (cwd : Path) (test : Text → Bool) (file : Path) : Part :=
  match fs.read cwd file with
  | .error e => .happens (.noted (unreadableNote file e))
  | .ok data => if isBinary data then .nothing else .alone (.each (linePart stop test file) data.lines.zipIdx)

/-- A file of a directory. -/
def filePart (stop : Nat → Bool) (fs : FileSystem) (cwd : Path) (test : Text → Bool) (file : Path) : Part :=
  (Part.ask stop).andThen
    (match fs.isFile cwd file with
    | .error e => .fails e
    | .ok false => .nothing
    | .ok true => contentPart stop fs cwd test file)

/-- A directory and its files. -/
def directoryPart (stop : Nat → Bool) (fs : FileSystem) (cwd : Path) (test : Text → Bool) :
    Path × List Component → Part
  | (dir, files) =>
    (Part.ask stop).andThen (.each (fun file => filePart stop fs cwd test (dir.child file)) files)

/-- The whole walk below a directory. -/
def walkPart (stop : Nat → Bool) (fs : FileSystem) (cwd root : Path) (test : Text → Bool) : Part :=
  match fs.list cwd root with
  | .error .nul => .fails .nul
  | _ => .each (directoryPart stop fs cwd test) (fs.tree cwd root)

/-- The course of the walk below a directory if the question number `i`, counted from 0, is answered with `stop i`. -/
def course (stop : Nat → Bool) (fs : FileSystem) (cwd root : Path) (test : Text → Bool) : Course :=
  walkPart stop fs cwd root test 0

end Walk

end Counterpart
