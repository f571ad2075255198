import Counterpart.FileSystem.Access
import Counterpart.Journal
import Counterpart.Json.Reader
import Counterpart.Path.Argument

/-!
# Scans

A scan hands out, one by one, the lines below a directory that match a pattern.  It starts with the first
request, can be closed at any time, and may fail or wait for ever.  This module holds what the kinds of scans
have in common: a match, the reply to a request, and the reasons for which a scan fails.
-/

namespace Counterpart

/-- A line that matches, and the file that it is in. -/
structure LineMatch where
  path : Path
  text : Text
deriving Repr, DecidableEq

/-- Why a scan fails. -/
inductive ScanError
  /-- The line searcher cannot be started. -/
  | launch (fault : Fault)
  /-- The line searcher has ended with this message. -/
  | searcher (message : Text)
  /-- The walk cannot go on. -/
  | walk (root : Path) (error : LookError)
  /-- A scripted scan fails with this message. -/
  | scripted (message : Text)
  /-- An event of the line searcher has something else where a path belongs. -/
  | eventPath (kind : String)
  /-- An event of the line searcher is nested too deep to be read. -/
  | eventTooDeep (container : Json.Container)
  /-- A scripted scan breaks down. -/
  | breakdown
deriving Repr, DecidableEq

namespace ScanError

/-- Whether it is the search that failed, and not the program. -/
def isSearchFailure : ScanError → Bool
  | .launch _ | .searcher _ | .walk .. | .scripted _ => true
  | .eventPath _ | .eventTooDeep _ | .breakdown => false

/-- The message for a failed scan. -/
def message : ScanError → String
  | .launch fault => "failed to run rg: " ++ fault.message "rg".toList
  | .searcher message => Text.toString message
  | .walk root error => "walk of " ++ root.shown ++ " failed: " ++ error.message
  | .scripted message => Text.toString message
  | .eventPath kind => (ArgumentError.noConversion kind).message
  | .eventTooDeep container => container.tooDeepMessage
  | .breakdown => "boom"

end ScanError

/-- The reply to a request for the next value. -/
inductive Reply (α : Type)
  | value (a : α)
  | finished
  | failed (error : ScanError)
  /-- Nothing comes, and nothing ever will. -/
  | blocked
deriving Repr, DecidableEq

/-- A reply, what it leaves behind, and the notes written on the way. -/
structure Turn (σ α : Type) where
  reply : Reply α
  state : σ
  notes : Journal := []

end Counterpart
