import Counterpart.Text.LowerCase

/-!
# Roles and base names

A file is a header or a source by the longest known extension that ends its name; a file with neither is none
of the program's business.  Without that extension and without one companion suffix the name is the *base
name*, under which a header and its source belong together.
-/

namespace Counterpart

/-- What a file is to the others. -/
inductive Role
  | header
  | source
  | other
deriving Repr, DecidableEq

/-- The name of a role. -/
def Role.name : Role → String
  | .header => "header"
  | .source => "source"
  | .other => "other"

/-- The known extensions, as sorted sets, and the companion suffixes in the order in which they are tried. -/
structure ExtensionTable where
  headers : List Text
  sources : List Text
  suffixes : List Text
deriving Repr, DecidableEq

namespace ExtensionTable

/-- The extensions of headers, unless configured. -/
def defaultHeaders : List Text :=
  Text.sortedSet [".h".toList, ".hh".toList, ".hpp".toList, ".hxx".toList, ".h++".toList]

/-- The extensions of sources, unless configured. -/
def defaultSources : List Text :=
  Text.sortedSet
    [".c".toList, ".cc".toList, ".cpp".toList, ".cxx".toList, ".c++".toList, ".m".toList, ".mm".toList]

/-- The companion suffixes, unless configured: `Foo-inl.h` and `FooInternal.h` belong to `Foo.cpp`. -/
def defaultSuffixes : List Text := ["-inl".toList, "Internal".toList]

/-- The table unless configured. -/
def default : ExtensionTable := ⟨defaultHeaders, defaultSources, defaultSuffixes⟩

/-- An extension as tables hold it: without blanks around it, in lower case, with a leading dot. -/
def normalize (extension : Text) : Text :=
  match Text.lower (Text.strip extension) with
  | [] => []
  | '.' :: rest => '.' :: rest
  | t => '.' :: t

/-- The set of normal extensions of a list; blank entries give none. -/
def normalSet (extensions : List Text) : List Text :=
  Text.sortedSet ((extensions.map normalize).filter (· ≠ []))

/-- The table of configured lists; a list that is missing keeps its default. -/
def ofLists (headers sources suffixes : Option (List Text)) : ExtensionTable where
  headers := (headers.map normalSet).getD defaultHeaders
  sources := (sources.map normalSet).getD defaultSources
  suffixes := (suffixes.map (·.filter (· ≠ []))).getD defaultSuffixes

/-- The table of lists that are taken as they are; a list that is missing keeps its default. -/
def ofRaw (headers sources suffixes : Option (List Text)) : ExtensionTable where
  headers := (headers.map Text.sortedSet).getD defaultHeaders
  sources := (sources.map Text.sortedSet).getD defaultSources
  suffixes := suffixes.getD defaultSuffixes

/-! ## Roles -/

/-- Whether `extension` ends `lowered` and leaves something before it. -/
def endsWithin (lowered extension : Text) : Bool :=
  extension.length < lowered.length && extension.isSuffixOf lowered

/-- The longer of two extensions, the first if they are equally long. -/
def longer (best : Option Text) (extension : Text) : Option Text :=
  match best with
  | none => some extension
  | some b => if b.length < extension.length then some extension else some b

/-- The longest of the extensions that ends a name, whatever its case. -/
def longest? (name : Text) (extensions : List Text) : Option Text :=
  (extensions.filter (endsWithin (Text.lower name))).foldl longer none

/-- The role of a file name and the extension that gives it.  The longer extension decides, and a header's
one if both are equally long. -/
def roleExtension (table : ExtensionTable) (name : Text) : Role × Option Text :=
  match longest? name table.headers, longest? name table.sources with
  | some h, some s => if s.length ≤ h.length then (.header, some h) else (.source, some s)
  | some h, none => (.header, some h)
  | none, some s => (.source, some s)
  | none, none => (.other, none)

/-- The role of a file with a path's text. -/
def role (table : ExtensionTable) (path : Text) : Role :=
  (table.roleExtension (Text.afterLast '/' path)).1

/-! ## Base names -/

/-- A name up to its last dot.  Dots at the beginning of a name do not count. -/
def stem (name : Text) : Text :=
  let dots := name.takeWhile (· = '.')
  let rest := name.dropWhile (· = '.')
  if rest.contains '.' then dots ++ Text.beforeLast '.' rest else name

/-- A stem without the first of the suffixes that ends it and leaves something. -/
def withoutSuffix (suffixes : List Text) (stem : Text) : Text :=
  match suffixes.find? (endsWithin stem) with
  | some suffix => stem.take (stem.length - suffix.length)
  | none => stem

/-- The base name of a file name: without its extension, and then without one companion suffix. -/
def basenameOfName (table : ExtensionTable) (name : Text) : Text :=
  withoutSuffix table.suffixes <|
    match (table.roleExtension name).2 with
    | some extension => Text.cutEnd name extension.length
    | none => stem name

/-- The base name of a file with a path's text. -/
def basename (table : ExtensionTable) (path : Text) : Text :=
  table.basenameOfName (Text.afterLast '/' path)

/-- The default suffixes leave the base name of a header. -/
example : default.basename "a/Foo-inl.h".toList = "Foo".toList := by decide +kernel

end ExtensionTable

end Counterpart
