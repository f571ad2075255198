import Counterpart.Path.Basic
import Counterpart.Json.Value

/-!
# Path arguments

What a caller may hand in where a path is wanted, and the one check that all lookups make of it.  An accepted
argument becomes an absolute path in normal form; links are left alone.
-/

namespace Counterpart

/-- A caller's argument.  A `pathLike` gives a value when it is asked for its path, and that value may be of
any kind. -/
inductive Argument
  | text (t : Text)
  | path (p : Path)
  | bytes
  | pathLike (inner : Argument)
  | other (value : Json)
deriving Repr

namespace Argument

/-- The name of the kind of an argument, as messages give it. -/
def kindName : Argument → String
  | .text _ => "str"
  | .path _ => "PosixPath"
  | .bytes => "bytes"
  | .pathLike _ => "PathLike"
  | .other v => v.kindName

end Argument

/-- Why an argument is not taken for a path. -/
inductive ArgumentError
  /-- It is of a kind that never is a path. -/
  | notPath (name : String) (kind : String)
  /-- It gives a path, but not as text. -/
  | notText (name : String)
  /-- It is the empty text. -/
  | empty (name : String)
  /-- It holds a NUL. -/
  | nul (name : String) (t : Text)
  /-- It was taken for a path, but gave something that is none. -/
  | badPathLike (kind : String)
  /-- Something that is no path stands where only paths are taken. -/
  | noConversion (kind : String)
  /-- It gives bytes where a path is made from text. -/
  | bytesGiven
  /-- It gives bytes where the ends of a name are compared with text. -/
  | bytesCompared
deriving Repr, DecidableEq

namespace ArgumentError

/-- Whether this is a fault of the value that the check of arguments reports itself. -/
def isInvalidPath : ArgumentError → Bool
  | .notPath .. | .notText _ | .empty _ | .nul .. => true
  | .badPathLike _ | .noConversion _ | .bytesGiven | .bytesCompared => false

/-- The message for a fault. -/
def message : ArgumentError → String
  | .notPath name kind => name ++ " must be a path, got " ++ kind
  | .notText name => name ++ " must be a text path"
  | .empty name => name ++ " must not be empty"
  | .nul name t => name ++ " contains a NUL byte: " ++ Text.toString (Text.quoted t)
  | .badPathLike kind => "expected PathLike.__fspath__() to return str or bytes, not " ++ kind
  | .noConversion kind => "expected str, bytes or os.PathLike object, not " ++ kind
  | .bytesGiven =>
    "argument should be a str object or an os.PathLike object returning str, not <class 'bytes'>"
  | .bytesCompared => "endswith first arg must be bytes or a tuple of bytes, not str"

end ArgumentError

namespace Argument

/-- What an argument gives as a path: text, or none if it gives bytes. -/
def given : Argument → Except ArgumentError (Option Text)
  | .text t => .ok (some t)
  | .path p => .ok (some p.text)
  | .bytes => .ok none
  | .pathLike (.text t) => .ok (some t)
  | .pathLike .bytes => .ok none
  | .pathLike inner => .error (.badPathLike inner.kindName)
  | .other v => .error (.noConversion v.kindName)

/-- Whether an argument is of a kind that gives a text path; bytes alone are not. -/
def isPathKind : Argument → Bool
  | .text _ | .path _ | .pathLike _ => true
  | .bytes | .other _ => false

/-- The absolute path that an argument gives, seen from a working directory.  `name` is what messages call the
argument. -/
def require (arg : Argument) (name : String) (cwd : Path) : Except ArgumentError Path := do
  if !arg.isPathKind then throw (.notPath name arg.kindName)
  match ← arg.given with
  | none => throw (.notText name)
  | some t =>
    if t.isEmpty then throw (.empty name)
    else if t.contains '\x00' then throw (.nul name t)
    else return (Path.ofText t).absolute cwd

/-- The path that an argument gives, unchecked and as it stands. -/
def toPath (arg : Argument) : Except ArgumentError Path := do
  match ← arg.given with
  | none => throw .bytesGiven
  | some t => return Path.ofText t

/-- The path text that an argument gives, unchecked, where the name in it is to be compared. -/
def toText (arg : Argument) : Except ArgumentError Text := do
  match ← arg.given with
  | none => throw .bytesCompared
  | some t => return t

end Argument

end Counterpart
