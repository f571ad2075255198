import Counterpart.Json.Encoding
import Counterpart.Scan.Basic

/-!
# Events of the line searcher

The line searcher writes one JSON object per line.  Those of type `match` carry a path and a line as text; all
others, and all that is no such object, say nothing.  Only what is nested too deep to be read is an error, whatever
it would have been.
-/

namespace Counterpart

namespace LineMatch

/-- The text member of a member of an event's data. -/
def textOf (data : Json) (name : Text) : Json :=
  (((data.field? name).getD (.object [])).field? "text".toList).getD .null

/-- The data of an event of type `match`. -/
def eventData? (event : Json) : Option Json :=
  match event.field? "type".toList with
  | some (.string kind) =>
    if kind = "match".toList then
      match (event.field? "data".toList).getD (.object []) with
      | .object members => some (.object members)
      | _ => none
    else none
  | _ => none

/-- The match that an event's data describe; a path that is no text is an error if there is a line to it. -/
def ofEventData (root : Path) (data : Json) : Except ScanError (Option LineMatch) :=
  let path := textOf data "path".toList
  if !path.isSomething then .ok none
  else match textOf data "lines".toList with
    | .string text =>
      match path with
      | .string p => .ok (some ⟨root.join (Path.ofText p), text⟩)
      | other => .error (.eventPath other.kindName)
    | _ => .ok none

/-- The match that an event describes, if it describes one. -/
def ofEvent (root : Path) (event : Json) : Except ScanError (Option LineMatch) :=
  match eventData? event with
  | some data => ofEventData root data
  | none => .ok none

/-- The match that a line of the searcher's output describes, if it describes one; `nesting` is how deep the line may
be nested. -/
def ofEventLine (nesting : Nat) (root : Path) (line : Bytes) : Except ScanError (Option LineMatch) :=
  match Json.ofBytes nesting line with
  | .ok event => ofEvent root event
  | .error .malformed => .ok none
  | .error (.tooDeep container) => .error (.eventTooDeep container)

end LineMatch

end Counterpart
