import Counterpart.CommandLine

/-!
# The program

Looks for the companion that its arguments ask for, in surroundings whose description it reads from standard
input.  The companion goes to standard output, everything else to standard error.
-/

open Counterpart

/-- All lines that are still to come. -/
partial def readLines (input : IO.FS.Stream) (done : List String) : IO (List String) := do
  let line ← input.getLine
  if line.isEmpty then return done.reverse else readLines input (line :: done)

/-- Runs the command once. -/
def main (arguments : List String) : IO UInt32 := do
  let description := String.join (← readLines (← IO.getStdin) [])
  let around := Surroundings.ofDescription ((Json.read? description.toList).getD (.object []))
  let run := CommandLine.run around none (arguments.map String.toList)
  IO.print (Text.toString run.ending.output)
  IO.eprint (Text.toString run.shownText)
  match run.ending.message? with
  | some message => IO.eprintln message
  | none => pure ()
  return run.ending.status
