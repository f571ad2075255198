import Counterpart.Path.Basic

/-!
# Framework layouts

A framework keeps its implementation below `Sources` and its headers below the sibling folders `Headers` and
`PrivateHeaders`, whose sub-folders follow those of `Sources`: either directly, or inside one more folder with
the framework's name.
-/

namespace Counterpart

/-- A framework, and the place in it that a source directory has.  `sourceFolder` is what stands behind
`Sources` as it is; in `folder` a leading framework name is left out. -/
structure Framework where
  path : Path
  name : Text
  folder : Text
  sourceFolder : Text
deriving Repr, DecidableEq

namespace Framework

/-- The folder of the implementation. -/
def sourcesFolder : Component := ⟨"Sources".toList, by decide⟩

/-- The folders of headers, those of public ones first. -/
def headerFolders : List Component :=
  [⟨"Headers".toList, by decide⟩, ⟨"PrivateHeaders".toList, by decide⟩]

/-- What stands before the last `Sources` of a list of components, and what stands behind it. -/
def splitAtSources : List Component → Option (List Component × List Component)
  | [] => none
  | c :: rest =>
    match splitAtSources rest with
    | some (before, behind) => some (c :: before, behind)
    | none => if c = sourcesFolder then some ([], rest) else none

/-- The framework that a directory lies in: the one of the last `Sources` on its path.  There is none if that
has no named folder above it. -/
def ofDirectory? (directory : Path) : Option Framework :=
  match splitAtSources directory.components with
  | none => none
  | some (before, behind) =>
    match before.getLast? with
    | none => none
    | some name =>
      let below := match behind with
        | c :: rest => if c = name then rest else behind
        | [] => behind
      some
        { path := { directory with components := before }
          name := name.val
          folder := Path.componentsText below
          sourceFolder := Path.componentsText behind }

/-- A path with a folder's text below it; the empty text is no folder. -/
def below (base : Path) (folder : Text) : Path :=
  if folder.isEmpty then base else base.join (Path.ofText folder)

/-- The directories that may hold a header of the framework, one folder of headers further: the one named for
the framework, the plain one, and the one with the source folder as it is if that is new. -/
def addFolder (framework : Framework) (candidates : List Path) (headers : Component) : List Path :=
  let base := framework.path.child headers
  let named := base.join (Path.ofText framework.name)
  let candidates := candidates ++ [below named framework.folder, below base framework.folder]
  if framework.sourceFolder.isEmpty then candidates
  else
    let verbatim := named.join (Path.ofText framework.sourceFolder)
    if candidates.contains verbatim then candidates else candidates ++ [verbatim]

/-- The directories that may hold a header of the framework, in the order in which they are tried. -/
def headerDirectories (framework : Framework) : List Path :=
  headerFolders.foldl framework.addFolder []

end Framework

end Counterpart
