import Counterpart.ExtensionTable
import Counterpart.Include.Pattern
import Counterpart.Path.Basic

/-!
# Include queries

A query looks for the sources that include one header.  A source is accepted for a line of it: the route from
the project root and the bare name are accepted as they are, any other relative spelling only if it leads from
the source's directory back to the header.
-/

namespace Counterpart.Include

/-- A search for the sources that include a header. -/
structure Query where
  header : Path
  /-- Where the sources are looked for: the header's directory and all below it. -/
  directory : Path
  pattern : Pattern
deriving Repr, DecidableEq

namespace Query

/-- The query for a header of a project. -/
def forHeader (header project cwd : Path) (directives : List Text := defaultDirectives) : Query where
  header := header
  directory := header.parent
  pattern := linePattern (header.relativeTo project cwd).text header.name directives

/-- Whether a relative spelling in a file leads to the header. -/
def leadsToHeader (query : Query) (file : Path) (relative : Text) : Bool :=
  (file.parent.join (Path.ofText relative)).normal = query.header

/-- Whether a character ends a line. -/
def isLineEnd (c : Char) : Bool := c = '\r' || c = '\n'

/-- Whether a file is a source and a line of it includes the header. -/
def accepts (query : Query) (table : ExtensionTable) (file : Path) (line : Text) : Bool :=
  table.role file.text = .source &&
    match spelling? query.pattern (line.trimEnd isLineEnd) with
    | none => false
    | some spelling =>
      match spelling.relative with
      | none => true
      | some relative => relative = query.header.name || query.leadsToHeader file relative

end Query

end Counterpart.Include
