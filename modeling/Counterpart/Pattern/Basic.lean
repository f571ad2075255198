import Counterpart.Text.Blank

/-!
# Patterns

A small language of patterns for lines, and the text that writes a pattern in the syntax of regular
expressions.  What may be repeated is a fixed run of single-character patterns, so that a repetition can go on
from a place in at most one way.
-/

namespace Counterpart

/-- A pattern for one character. -/
inductive Atom
  | char (c : Char)
  /-- Any blank. -/
  | blank
  | oneOf (cs : List Char)
deriving Repr, DecidableEq

/-- A pattern. -/
inductive Pattern
  | empty
  /-- The beginning of the text. -/
  | lineStart
  /-- The end of the text, or the place before a line feed that ends it. -/
  | lineEnd
  | atom (a : Atom)
  | seq (p q : Pattern)
  /-- The first of the two, and where that fails the second. -/
  | either (p q : Pattern)
  | group (p : Pattern)
  /-- A group whose text is kept under a name. -/
  | capture (name : Text) (p : Pattern)
  /-- The pattern, and where that fails nothing. -/
  | optional (p : Pattern)
  /-- A run of atoms as often as it can be had, then less often; at least once if `once` says so. -/
  | repeated (once : Bool) (unit : List Atom)
deriving Repr, DecidableEq

/-- The characters that stand for something else in a pattern's text. -/
def specialChars : List Char :=
  ['\\', '.', '^', '$', '|', '?', '*', '+', '(', ')', '[', ']', '\x7b', '\x7d']

/-- A text as a pattern's text that stands for itself. -/
def escapeLiteral (t : Text) : Text := t.flatMap fun c => if c ∈ specialChars then ['\\', c] else [c]

namespace Atom

/-- The text that writes an atom. -/
def source : Atom → Text
  | .char c => escapeLiteral [c]
  | .blank => ['\\', 's']
  | .oneOf cs => '[' :: cs ++ [']']

/-- Whether an atom takes a character. -/
def takes : Atom → Char → Bool
  | .char c, d => d = c
  | .blank, d => Text.isBlank d
  | .oneOf cs, d => cs.contains d

end Atom

namespace Pattern

/-- Patterns one after the other. -/
def sequence : List Pattern → Pattern
  | [] => .empty
  | [p] => p
  | p :: ps => .seq p (sequence ps)

/-- Patterns of which one has to match, the first ones preferred. -/
def choice : List Pattern → Pattern
  | [] => .empty
  | [p] => p
  | p :: ps => .either p (choice ps)

/-- The characters of a text, one pattern each. -/
def chars (t : Text) : List Pattern := t.map fun c => .atom (.char c)

/-- A text that stands for itself. -/
def literal (t : Text) : Pattern := sequence (chars t)

/-- The text that writes a pattern. -/
def source : Pattern → Text
  | .empty => []
  | .lineStart => ['^']
  | .lineEnd => ['$']
  | .atom a => a.source
  | .seq p q => p.source ++ q.source
  | .either p q => p.source ++ '|' :: q.source
  | .group p => "(?:".toList ++ p.source ++ [')']
  | .capture name p => "(?P<".toList ++ name ++ '>' :: p.source ++ [')']
  | .optional p => p.source ++ ['?']
  | .repeated once unit =>
    let sign := if once then '+' else '*'
    match unit with
    | [a] => a.source ++ [sign]
    | _ => "(?:".toList ++ unit.flatMap Atom.source ++ [')', sign]

end Pattern

end Counterpart
