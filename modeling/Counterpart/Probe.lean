import Counterpart.ExtensionTable
import Counterpart.FileSystem.Access
import Counterpart.Journal

/-!
# Probing a directory

The cheapest way to a companion: one directory is listed, and the first file with the right role and base name
is taken.  A directory that cannot be listed holds nothing.
-/

namespace Counterpart

/-- The note about a directory that cannot be listed. -/
def unlistableNote (dir : Path) (error : LookError) : Note :=
  ⟨.debug, .listing, "cannot list " ++ dir.shown ++ ": " ++ error.message⟩

/-- The files of a directory, none if it cannot be listed.  A path with a NUL is an error all the same. -/
def FileSystem.listing (fs : FileSystem) (cwd dir : Path) : Except LookError (List Path × Journal) :=
  match fs.files cwd dir with
  | .ok files => .ok (files, [])
  | .error .nul => .error .nul
  | .error e => .ok ([], [unlistableNote dir e])

/-- What a probe looks for. -/
structure Probe where
  basename : Text
  role : Role
  table : ExtensionTable
deriving Repr

namespace Probe

/-- Whether a file is what the probe looks for. -/
def accepts (probe : Probe) (file : Path) : Bool :=
  probe.table.role file.text = probe.role && probe.table.basename file.text = probe.basename

/-- The first file of a directory that the probe looks for. -/
def run (probe : Probe) (fs : FileSystem) (cwd dir : Path) : Except LookError (Option Path × Journal) := do
  let (files, notes) ← fs.listing cwd dir
  return (files.find? probe.accepts, notes)

/-- The first file that the probe looks for in some directories, the first ones preferred. -/
def runAll (probe : Probe) (fs : FileSystem) (cwd : Path) :
    List Path → Except LookError (Option Path × Journal)
  | [] => return (none, [])
  | dir :: rest => do
    let (found, notes) ← probe.run fs cwd dir
    match found with
    | some file => return (some file, notes)
    | none =>
      let (found, more) ← probe.runAll fs cwd rest
      return (found, notes ++ more)

end Probe

end Counterpart
