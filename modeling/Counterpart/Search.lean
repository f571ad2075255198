import Counterpart.Include.Query
import Counterpart.Scan

/-!
# Include searches

A search hands out at most one value: the first source that is found to include the header, or `none` once the
scan has come to its end without one.  It starts its scan with the first request, and closes it as soon as
it is asked for more than the source it found.
-/

namespace Counterpart

/-- How far a search is. -/
inductive Search.Phase
  | searching
  /-- A source has been handed out; the scan is still open. -/
  | offered
  /-- It has been said that there is none. -/
  | spent
  | ended
deriving Repr, DecidableEq

/-- A search for a source that includes a header. -/
structure Search where
  query : Include.Query
  table : ExtensionTable
  scan : Scan
  phase : Search.Phase := .searching
deriving Repr

namespace Search

/-- The note at the beginning of a search. -/
def startNote (query : Include.Query) : Note :=
  ⟨.debug, .search, "searching " ++ query.directory.shown ++ " for includes of " ++ query.header.shown⟩

/-- The note about a source that was found. -/
def foundNote (query : Include.Query) (source : Path) : Note :=
  ⟨.debug, .search, source.shown ++ " includes " ++ query.header.shown⟩

/-- Goes on with a scan up to a match that the query accepts, and gives its file. -/
def pull (query : Include.Query) (table : ExtensionTable) (scan : Scan) (notes : Journal) : Turn Scan Path :=
  let turn := scan.next
  let notes := notes ++ turn.notes
  match h : turn.reply with
  | .value m =>
    have : scan.next.state.left < scan.left := Scan.left_next h
    if query.accepts table m.path m.text then
      ⟨.value m.path, turn.state, notes ++ [foundNote query m.path]⟩
    else pull query table turn.state notes
  | .finished => ⟨.finished, turn.state, notes⟩
  | .failed e => ⟨.failed e, turn.state, notes⟩
  | .blocked => ⟨.blocked, turn.state, notes⟩
termination_by scan.left

/-- The search with its scan closed. -/
def close (search : Search) : Search := { search with scan := search.scan.close, phase := .ended }

/-- The next value. -/
def next (search : Search) : Turn Search (Option Path) :=
  match search.phase with
  | .searching =>
    let turn := pull search.query search.table search.scan []
    let search := { search with scan := turn.state }
    match turn.reply with
    | .value source => ⟨.value (some source), { search with phase := .offered }, turn.notes⟩
    | .finished => ⟨.value none, { search with phase := .spent }, turn.notes⟩
    | .failed e => ⟨.failed e, search.close, turn.notes⟩
    | .blocked => ⟨.blocked, search, turn.notes⟩
  | .offered | .spent => ⟨.finished, search.close, []⟩
  | .ended => ⟨.finished, search, []⟩

/-- The next value for one who cannot wait: none comes if its scan keeps one waiting from the beginning. -/
def nextAtOnce (search : Search) : Turn Search (Option Path) :=
  let turn := search.scan.nextAtOnce
  if search.phase = .searching ∧ turn.reply = .blocked then
    ⟨.blocked, { search with scan := turn.state }, turn.notes⟩
  else search.next

/-- A bound on the values still to come: one, while the search goes on. -/
def left (search : Search) : Nat :=
  match search.phase with
  | .searching => 1
  | .offered | .spent | .ended => 0

/-- There is no value after a value. -/
theorem left_next {search : Search} {a : Option Path} (h : search.next.reply = .value a) :
    search.next.state.left < search.left := by
  cases hphase : search.phase with
  | searching =>
    have hleft : search.left = 1 := by simp [left, hphase]
    rw [hleft]
    unfold next at h ⊢
    rw [hphase] at h ⊢
    dsimp only at h ⊢
    split <;> simp_all [left]
  | offered => simp [next, hphase] at h
  | spent => simp [next, hphase] at h
  | ended => simp [next, hphase] at h

instance : Feed Search (Option Path) := ⟨next, close, left, left_next⟩

/-- The search for sources that include a header of a project, with the notes written when it is set up.
Without a scanner it picks one itself. -/
def create (around : Surroundings) (header project : Path) (table : ExtensionTable)
    (scanner : Option Scanner) (directives : List Text) : Search × Journal :=
  let query := Include.Query.forHeader header project around.cwd directives
  let (scanner, notes) := match scanner with
    | some scanner => (scanner, [])
    | none => Tool.auto.scanner around
  ({ query := query, table := table, scan := scanner.scan around query.directory query.pattern },
    notes ++ [startNote query])

/-- The search for sources that include a header, for arguments as a caller gives them. -/
def ofArguments (around : Surroundings) (header project : Argument) (table : ExtensionTable)
    (scanner : Option Scanner) (directives : List Text) : Except ArgumentError (Search × Journal) := do
  let header ← header.require "header" around.cwd
  let project ← project.require "project_root" around.cwd
  return create around header project table scanner directives

end Search

end Counterpart
