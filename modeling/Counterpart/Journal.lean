/-!
# Notes

What is written down for the user while a lookup runs.  Notes are values: whoever runs the lookup decides which
of them are shown.
-/

namespace Counterpart

/-- How much a note matters. -/
inductive Level
  | debug
  | warning
deriving Repr, DecidableEq

/-- The name of a level. -/
def Level.name : Level → String
  | .debug => "DEBUG"
  | .warning => "WARNING"

/-- The part of the program that writes a note. -/
inductive Origin
  | listing
  | scan
  | search
  | lookup
deriving Repr, DecidableEq

/-- The name under which a part of the program writes its notes. -/
def Origin.name : Origin → String
  | .listing => "companionfile.fs"
  | .scan => "companionfile.search.scanners"
  | .search => "companionfile.search.engine"
  | .lookup => "companionfile.resolver"

/-- A note. -/
structure Note where
  level : Level
  origin : Origin
  message : String
deriving Repr, DecidableEq

/-- A note as a line. -/
def Note.line (note : Note) : String := note.level.name ++ " " ++ note.origin.name ++ ": " ++ note.message

/-- Notes in the order in which they were written. -/
abbrev Journal := List Note

namespace Journal

/-- The notes that are warnings. -/
def warnings (notes : Journal) : Journal := notes.filter (·.level = .warning)

@[simp] theorem warnings_nil : warnings [] = [] := rfl

@[simp] theorem warnings_append (notes more : Journal) :
    warnings (notes ++ more) = warnings notes ++ warnings more := List.filter_append notes more

end Journal

end Counterpart
