import Counterpart.Scan.Ripgrep

/-!
# Surroundings

What a lookup finds around it: the files, the working directory, the line searcher, and what the system it runs on
sets.  Surroundings can be described in JSON, entry by entry, so that a lookup can be asked for on files that are
nowhere on a disk.
-/

namespace Counterpart

/-- What a lookup finds around it. -/
structure Surroundings where
  fs : FileSystem
  /-- The working directory. -/
  cwd : Path
  /-- Whether the line searcher is installed. -/
  installed : Bool := false
  /-- What starting the line searcher leads to. -/
  launch : Ripgrep.Launch := .refused .missing
  /-- How deep JSON may be nested to be read. -/
  nesting : Nat := 900
  /-- Where the settings file is. -/
  settingsFile : Path := Path.ofText "/config/companionfile/config.json".toList
  /-- Whether the value of a flag gets lost that is nothing but a double dash, as in `--root=--`.  This is so with old
  readers of command lines only; by their description the value is the double dash. -/
  dropsDoubleDash : Bool := false

namespace Description

/-! ## Members -/

/-- A member of a description; null is as good as missing. -/
def member? (description : Json) (name : String) : Option Json :=
  match description.field? name.toList with
  | some .null | none => none
  | some value => some value

/-- A member that is a text. -/
def text? (description : Json) (name : String) : Option Text :=
  match member? description name with
  | some (.string t) => some t
  | _ => none

/-- Whether a member is true; `default` where it is missing. -/
def flag (description : Json) (name : String) (default : Bool) : Bool :=
  match member? description name with
  | some (.bool b) => b
  | _ => default

/-- A member that is an integer. -/
def int? (description : Json) (name : String) : Option Int :=
  match member? description name with
  | some (.int n) => some n
  | _ => none

/-- The items of a member. -/
def items (description : Json) (name : String) : List Json :=
  match member? description name with
  | some (.array items) => items
  | _ => []

/-! ## Bytes -/

/-- The bytes that pairs of hexadecimal digits write. -/
def ofHex : Text → Bytes
  | high :: low :: rest =>
    UInt8.ofNat ((Text.hexDigit? high).getD 0 * 16 + (Text.hexDigit? low).getD 0) :: ofHex rest
  | _ => []

mutual

/-- The bytes that are described: a text stands for its UTF-8, an array for its parts one after the other, an
object for hexadecimal digits or for something repeated. -/
def bytes : Json → Bytes
  | .string t => Text.Utf8.encode t
  | .array items => allBytes items
  | .object members =>
    match text? (.object members) "hex" with
    | some digits => ofHex digits
    | none =>
      let count := ((int? (.object members) "count").getD 0).toNat
      (List.replicate count (repeatedBytes members)).flatten
  | _ => []

/-- The bytes of parts, one after the other. -/
def allBytes : List Json → Bytes
  | [] => []
  | item :: rest => bytes item ++ allBytes rest

/-- The bytes that an object wants repeated. -/
def repeatedBytes : List (Text × Json) → Bytes
  | [] => []
  | (name, value) :: rest => if name = "repeat".toList then bytes value else repeatedBytes rest

end

/-- The bytes that a member describes. -/
def bytesAt (description : Json) (name : String) : Bytes := ((member? description name).map bytes).getD []

/-! ## Files -/

/-- What a description puts into a file system: a link, a directory, something special, or else a file. -/
def node (description : Json) : Node where
  entry :=
    match text? description "link" with
    | some target => .link (Path.ofText target)
    | none =>
      if flag description "dir" false then .directory
      else if flag description "special" false then .special
      else .file (bytesAt description "data")
  denied := flag description "denied" false
  statDenied := flag description "stat_denied" false

/-- The location that a text names. -/
def location (t : Text) : Location := (Path.ofText t).normal.components

/-- A file system with the entry that is described. -/
def put (fs : FileSystem) (description : Json) : FileSystem :=
  fs.put (location ((text? description "path").getD [])) (node description)

/-- A file system with a directory at a path, made if nothing is there. -/
def withDirectory (fs : FileSystem) (path : Path) : FileSystem :=
  let l := path.normal.components
  (fs.ensureAbove l).ensureDirectory l

/-! ## The line searcher -/

/-- What starting the line searcher leads to.  Without a description it is not there; with one it is there at once, and
all its output comes in before the first look. -/
def launch : Option Json → Ripgrep.Launch
  | none => .refused .missing
  | some description =>
    match text? description "spawn_error" with
    | some kind => .refused (if kind = "denied".toList then .denied else .missing)
    | none =>
      .runs
        { pieces := [bytesAt description "stdout"], stderr := bytesAt description "stderr"
          status := (int? description "exit").getD 0, finished := flag description "finished" true
          gone := flag description "gone" false, atOnce := true }

end Description

/-- The surroundings that are described: entries of a file system in the order in which they are made, a working
directory, and what is to be known about the line searcher. -/
def Surroundings.ofDescription (description : Json) : Surroundings :=
  let cwd := Path.ofText ((Description.text? description "cwd").getD ['/'])
  { fs := Description.withDirectory ((Description.items description "fs").foldl Description.put .empty) cwd
    cwd := cwd
    installed := Description.flag description "which" false
    launch := Description.launch (Description.member? description "rg") }

end Counterpart
