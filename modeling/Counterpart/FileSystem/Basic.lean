import Counterpart.Bytes
import Counterpart.Path.Basic

/-!
# File systems

A file system is a list of locations and what is found there, in the order in which the locations first came
up.  That order is the one in which a directory lists its children.  A location names no link and no double
dot on the way: it is where a path leads, not the path.
-/

namespace Counterpart

/-- A place in the tree: the names from the root down to it. -/
abbrev Location := List Component

/-- What is found at a location. -/
inductive Entry
  | file (data : Bytes)
  | directory
  | link (target : Path)
  /-- A pipe or another thing that is neither file nor directory. -/
  | special
deriving Repr, DecidableEq

/-- An entry and what is refused about it: opening or listing it, or even looking at it or past it. -/
structure Node where
  entry : Entry
  denied : Bool := false
  statDenied : Bool := false
deriving Repr, DecidableEq

/-- Whether a node is a link. -/
def Node.isLink (node : Node) : Bool :=
  match node.entry with
  | .link _ => true
  | _ => false

/-- A file system. -/
structure FileSystem where
  nodes : List (Location × Node)
  /-- The greatest length of a name in bytes, if there is one.  It also binds the names that a link leads through. -/
  greatestName : Option Nat := none
  /-- The greatest length of a path as it is asked for, in bytes, if there is one. -/
  greatestPath : Option Nat := none
deriving Repr

namespace FileSystem

/-- The file system with nothing but a root. -/
def empty : FileSystem := { nodes := [([], { entry := .directory })] }

/-- What is found at a location. -/
def node? (fs : FileSystem) (l : Location) : Option Node := fs.nodes.lookup l

/-- Whether `l` lies below `top`. -/
def isBelow (top l : Location) : Bool := top.isPrefixOf l && top.length < l.length

/-- The children of a location, in order. -/
def children (fs : FileSystem) (l : Location) : List (Component × Node) :=
  fs.nodes.filterMap fun (m, node) =>
    match m.getLast? with
    | some name => if m.dropLast = l then some (name, node) else none
    | none => none

/-- A file system without a location and all below it. -/
def remove (fs : FileSystem) (l : Location) : FileSystem :=
  { fs with nodes := fs.nodes.filter fun (m, _) => !l.isPrefixOf m }

/-- A directory at a location where nothing is found. -/
def ensureDirectory (fs : FileSystem) (l : Location) : FileSystem :=
  if (fs.node? l).isSome then fs else { fs with nodes := fs.nodes ++ [(l, { entry := .directory })] }

/-- A file system with directories wherever they are missing above `l`. -/
def ensureAbove (fs : FileSystem) (l : Location) : FileSystem :=
  (List.range l.length).foldl (fun fs n => fs.ensureDirectory (l.take n)) fs

/-- Whether both are directories. -/
def bothDirectories (a b : Entry) : Bool := a = .directory && b = .directory

/-- A file system with a node at a location.  An old node there is replaced in its place; what was below it is
kept only if a directory takes the place of a directory. -/
def put (fs : FileSystem) (l : Location) (node : Node) : FileSystem :=
  let fs := fs.ensureAbove l
  match fs.node? l with
  | none => { fs with nodes := fs.nodes ++ [(l, node)] }
  | some old =>
    let kept := if bothDirectories old.entry node.entry then fs.nodes
      else fs.nodes.filter fun (m, _) => !isBelow l m
    { fs with nodes := kept.map fun (m, n) => if m = l then (m, node) else (m, n) }

/-- Nothing is found any more at a location that was removed, nor below it. -/
theorem node?_remove_of_prefix (fs : FileSystem) {l m : Location} (h : l.isPrefixOf m) :
    (fs.remove l).node? m = none := by
  unfold remove node?
  rw [List.lookup_eq_none_iff]
  intro p hp
  have hkept := (List.mem_filter.1 hp).2
  rw [bne_iff_ne]
  rintro rfl
  simp [h] at hkept

end FileSystem

end Counterpart
