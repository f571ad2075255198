import Counterpart.FileSystem.Basic
import Counterpart.Text.Quoted
import Counterpart.Text.Utf8

/-!
# Looking at a file system

Where a path leads, and what can be learned there.  Links are followed, at most forty on one way; double dots
lead to the parent of where the way has come to.  Names and whole paths may be too long to be looked for.  Every
look can fail, and the fault says why.
-/

namespace Counterpart

/-- Why the file system refuses something. -/
inductive Fault
  | missing
  | denied
  | notDirectory
  | isDirectory
  | nameTooLong
  | tooManyLinks
deriving Repr, DecidableEq

namespace Fault

/-- The number of a fault. -/
def number : Fault → Nat
  | .missing => 2
  | .denied => 13
  | .notDirectory => 20
  | .isDirectory => 21
  | .nameTooLong => 36
  | .tooManyLinks => 40

/-- A fault in words. -/
def text : Fault → String
  | .missing => "No such file or directory"
  | .denied => "Permission denied"
  | .notDirectory => "Not a directory"
  | .isDirectory => "Is a directory"
  | .nameTooLong => "File name too long"
  | .tooManyLinks => "Too many levels of symbolic links"

/-- The message for a fault of something with a name. -/
def message (fault : Fault) (name : Text) : String :=
  "[Errno " ++ toString fault.number ++ "] " ++ fault.text ++ ": " ++ Text.toString (Text.quoted name)

end Fault

/-- Why a look at the file system failed: the path holds a NUL, or there was a fault on it. -/
inductive LookError
  | nul
  | refused (fault : Fault) (path : Path)
deriving Repr, DecidableEq

/-- The message for a failed look. -/
def LookError.message : LookError → String
  | .nul => "embedded null byte"
  | .refused fault path => fault.message path.text

namespace FileSystem

/-- Whether a text takes up more bytes than it may. -/
def exceeds (greatest : Option Nat) (t : Text) : Bool := greatest.any fun n => n < (Text.Utf8.encode t).length

/-- The way from `here` along some components, as far as no link has to be followed; `onLink` goes on from a link.
The last component is followed only if `follow` says so. -/
def resolveWith (fs : FileSystem) (follow : Bool)
    (onLink : Location → List Component → Except Fault Location) :
    Location → List Component → Except Fault Location
  | here, [] => .ok here
  | here, c :: rest =>
    match fs.node? here with
    | none => .error .missing
    | some node =>
      if node.entry ≠ .directory then .error .notDirectory
      else if c = .up then resolveWith fs follow onLink here.dropLast rest
      else if exceeds fs.greatestName c.val then .error .nameTooLong
      else
        let next := here ++ [c]
        match fs.node? next with
        | none => .error .missing
        | some node =>
          if node.statDenied then .error .denied
          else match node.entry with
            | .link target =>
              if rest.isEmpty && !follow then .ok next
              else onLink (if target.isAbsolute then [] else here) (target.components ++ rest)
            | _ => resolveWith fs follow onLink next rest

/-- The way along some components with a number of links that may still be followed. -/
def resolveFrom (fs : FileSystem) (follow : Bool) :
    Nat → Location → List Component → Except Fault Location
  | 0 => resolveWith fs follow fun _ _ => .error .tooManyLinks
  | links + 1 => resolveWith fs follow (resolveFrom fs follow links)

/-- How many links may be followed on one way. -/
def greatestLinks : Nat := 40

/-- Where a path leads, seen from a working directory. -/
def resolve (fs : FileSystem) (cwd : Path) (follow : Bool) (p : Path) : Except LookError Location :=
  let components := (cwd.join p).components
  if components.any fun c => c.val.contains '\x00' then .error .nul
  else if exceeds fs.greatestPath p.text then .error (.refused .nameTooLong p)
  else (fs.resolveFrom follow greatestLinks [] components).mapError (.refused · p)

/-- What a path leads to, and where, links followed. -/
def look (fs : FileSystem) (cwd : Path) (p : Path) : Except LookError (Location × Node) := do
  let l ← fs.resolve cwd true p
  match fs.node? l with
  | some node => return (l, node)
  | none => throw (.refused .missing p)

/-- Whether a fault only says that there is nothing at a path. -/
def saysNothingThere : LookError → Bool
  | .nul => true
  | .refused fault _ => fault = .missing || fault = .notDirectory || fault = .tooManyLinks

/-- Whether a path leads to an entry that satisfies `p`; no entry satisfies it. -/
def leadsTo (p : Entry → Bool) (fs : FileSystem) (cwd path : Path) : Except LookError Bool :=
  match fs.look cwd path with
  | .ok (_, node) => .ok (p node.entry)
  | .error e => if saysNothingThere e then .ok false else .error e

/-- Whether a path leads to a file. -/
def isFile : FileSystem → Path → Path → Except LookError Bool :=
  leadsTo fun | .file _ => true | _ => false

/-- Whether a path leads to a directory. -/
def isDirectory : FileSystem → Path → Path → Except LookError Bool :=
  leadsTo fun | .directory => true | _ => false

/-- The bytes of the file that a path leads to. -/
def read (fs : FileSystem) (cwd p : Path) : Except LookError Bytes := do
  let (_, node) ← fs.look cwd p
  match node.entry with
  | .directory => throw (.refused .isDirectory p)
  | .file data => if node.denied then throw (.refused .denied p) else return data
  | _ => if node.denied then throw (.refused .denied p) else return []

/-! ## Listing -/

/-- The children of the directory that a path leads to. -/
def list (fs : FileSystem) (cwd p : Path) : Except LookError (List (Component × Node)) := do
  let (l, node) ← fs.look cwd p
  if node.entry ≠ .directory then throw (.refused .notDirectory p)
  else if node.denied then throw (.refused .denied p)
  else return fs.children l

/-- Whether a child of the directory `dir` is a directory.  Only a link has to be followed for that, and it may
lead nowhere. -/
def childIsDirectory (fs : FileSystem) (cwd dir : Path) (child : Component × Node) :
    Except LookError Bool :=
  match child.2.entry with
  | .directory => .ok true
  | .link _ =>
    match fs.look cwd (dir.child child.1) with
    | .ok (_, node) => .ok (node.entry = .directory)
    | .error (.refused .missing _) => .ok false
    | .error e => .error e
  | _ => .ok false

/-- The children of a directory that are no directories, in listing order.  A child of which that cannot be
told is left out. -/
def files (fs : FileSystem) (cwd dir : Path) : Except LookError (List Path) := do
  let children ← fs.list cwd dir
  return (children.filter fun child =>
    match fs.childIsDirectory cwd dir child with
    | .ok isDirectory => !isDirectory
    | .error _ => false).map fun child => dir.child child.1

/-! ## Directory trees -/

/-- Whether a child counts as a directory of a tree; one of which that cannot be told does not. -/
def countsAsDirectory (fs : FileSystem) (cwd dir : Path) (child : Component × Node) : Bool :=
  match fs.childIsDirectory cwd dir child with
  | .ok isDirectory => isDirectory
  | .error _ => false

/-- The directories from `dir` down, each with the children that are no directories; a directory comes before
those in it.  Links to directories are not entered, and a directory that cannot be listed is left out.  The
number bounds the depth. -/
def treeTo (fs : FileSystem) (cwd : Path) : Nat → Path → List (Path × List Component)
  | 0, _ => []
  | depth + 1, dir =>
    match fs.list cwd dir with
    | .error _ => []
    | .ok children =>
      let (directories, others) := children.partition (fs.countsAsDirectory cwd dir)
      let entered := directories.filter fun child => !child.2.isLink
      (dir, others.map (·.1)) :: entered.flatMap fun child => treeTo fs cwd depth (dir.child child.1)

/-- The length of the longest location. -/
def depth (fs : FileSystem) : Nat := fs.nodes.foldl (fun n (l, _) => max n l.length) 0

/-- The directories from `dir` down.  No directory lies deeper than the longest location. -/
def tree (fs : FileSystem) (cwd dir : Path) : List (Path × List Component) :=
  fs.treeTo cwd (fs.depth + 1) dir

end FileSystem

end Counterpart
