import Counterpart.Pattern.Matching

/-!
# The pattern of an include line

A line includes a header if it is an include or import directive whose quoted path is the header's route from
the project root, or a *relative spelling*: any number of ascents, some of the last directories of the route,
and the header's name.  The group `path` is the whole path, the group `relative` a relative spelling.
-/

namespace Counterpart.Include

/-- The directives that include a file. -/
def defaultDirectives : List Text := ["include".toList, "import".toList]

/-- The suffixes of a list of directories as texts that end with a slash, the shortest first. -/
def suffixTexts : List Text → List Text
  | [] => []
  | d :: rest => suffixTexts rest ++ [Text.join '/' (d :: rest) ++ ['/']]

/-- Whether a part of a route is the name of a directory. -/
def isDirectoryName (t : Text) : Bool := t ≠ [] && t ≠ ['.'] && t ≠ ['.', '.']

/-- The last directories of a slash-separated text, from the last one alone to all of them. -/
def trailingDirectories (directory : Text) : List Text :=
  suffixTexts ((directory.splitOn '/').filter isDirectoryName)

/-- The name of the group for the path. -/
def pathGroup : Text := "path".toList

/-- The name of the group for a relative spelling. -/
def relativeGroup : Text := "relative".toList

/-- One of the trailing directories, or none of them. -/
def directoryPart (directories : List Text) : List Pattern :=
  if directories.isEmpty then []
  else [.optional (.group (.choice (directories.map .literal)))]

/-- A relative spelling of a header with a route and a name. -/
def relativePattern (route name : Text) : Pattern :=
  .sequence <|
    .repeated false [.char '.', .char '.', .char '/'] ::
      directoryPart (trailingDirectories (Text.beforeLast '/' route)) ++ Pattern.chars name

/-- The pattern of the lines that include a header with a route and a name. -/
def linePattern (route name : Text) (directives : List Text) : Pattern :=
  .sequence
    [.lineStart, .repeated false [.blank], .atom (.char '#'),
      .group (.choice (directives.map .literal)), .repeated true [.blank],
      .atom (.oneOf ['"', '<']),
      .capture pathGroup (.either (.literal route) (.capture relativeGroup (relativePattern route name))),
      .atom (.oneOf ['"', '>']), .repeated false [.blank], .lineEnd]

/-- The path that a line includes, and whether it is a relative spelling. -/
structure Spelling where
  path : Text
  relative : Option Text
deriving Repr, DecidableEq

/-- The spelling in a line that matches a pattern from its beginning. -/
def spelling? (pattern : Pattern) (line : Text) : Option Spelling := do
  let cursor ← pattern.match? line
  let path ← cursor.group? pathGroup
  return ⟨path, cursor.group? relativeGroup⟩

end Counterpart.Include
