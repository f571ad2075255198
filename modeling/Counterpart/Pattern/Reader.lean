import Counterpart.Pattern.Basic

/-!
# Reading patterns

The pattern that a text writes, in the part of regular-expression syntax that `Pattern.source` uses.  The text
is read character by character; groups that are still open wait on a stack.
-/

namespace Counterpart.Pattern

/-- What a closed group becomes. -/
inductive Opening
  | plain
  | named (name : Text)
deriving Repr, DecidableEq

/-- What is being read at a character. -/
inductive Mode
  | items
  /-- Behind a backslash. -/
  | escape
  /-- Inside brackets; the characters so far, last first. -/
  | set (done : Text)
  /-- Behind an opening parenthesis, `(?` and `(?P`. -/
  | opening (seen : Nat)
  /-- Inside a group's name; the characters so far, last first. -/
  | name (done : Text)
deriving Repr, DecidableEq

/-- The alternatives read at one level: those finished and the items of the one at hand, both last first. -/
structure Level where
  finished : List Pattern
  items : List Pattern
deriving Repr, DecidableEq

/-- How far a pattern is read. -/
structure Reading where
  mode : Mode
  level : Level
  /-- The levels around the one at hand, each with what the group inside it will become. -/
  outer : List (Opening × Level)
deriving Repr, DecidableEq

namespace Level

/-- The level of a group just opened. -/
def fresh : Level := ⟨[], []⟩

/-- The level with one more item. -/
def push (l : Level) (p : Pattern) : Level := { l with items := p :: l.items }

/-- The level at the beginning of its next alternative. -/
def next (l : Level) : Level := ⟨sequence l.items.reverse :: l.finished, []⟩

/-- The pattern of a level that has come to its end. -/
def close (l : Level) : Pattern := choice l.next.finished.reverse

end Level

/-- The atoms of a pattern that is a run of them. -/
def atoms? : Pattern → Option (List Atom)
  | .empty => some []
  | .atom a => some [a]
  | .seq (.atom a) q => q.atoms?.map (a :: ·)
  | _ => none

/-- An item with a sign behind it that says how often it is wanted. -/
def withSign? (sign : Char) (p : Pattern) : Option Pattern :=
  match sign, p with
  | '*', .atom a => some (.repeated false [a])
  | '+', .atom a => some (.repeated true [a])
  | '*', .group p => p.atoms?.map (.repeated false)
  | '+', .group p => p.atoms?.map (.repeated true)
  | '?', .atom a => some (.optional (.atom a))
  | '?', .group p => some (.optional (.group p))
  | _, _ => none

namespace Reading

/-- Nothing read. -/
def fresh : Reading := ⟨.items, .fresh, []⟩

/-- One more item read. -/
def push (r : Reading) (p : Pattern) : Reading := { r with mode := .items, level := r.level.push p }

/-- One character where items stand. -/
def item? (r : Reading) (c : Char) : Option Reading :=
  if c = '\\' then some { r with mode := .escape }
  else if c = '[' then some { r with mode := .set [] }
  else if c = '(' then some { r with mode := .opening 0 }
  else if c = ')' then
    match r.outer with
    | [] => none
    | (.plain, level) :: outer => some ⟨.items, level.push (.group r.level.close), outer⟩
    | (.named name, level) :: outer => some ⟨.items, level.push (.capture name r.level.close), outer⟩
  else if c = '|' then some { r with level := r.level.next }
  else if c = '^' then some (r.push .lineStart)
  else if c = '$' then some (r.push .lineEnd)
  else if c = '*' ∨ c = '+' ∨ c = '?' then
    match r.level.items with
    | p :: before => (withSign? c p).map fun p => { r with level := { r.level with items := p :: before } }
    | [] => none
  else if c ∈ specialChars then none
  else some (r.push (.atom (.char c)))

/-- One character further. -/
def step? (r : Reading) (c : Char) : Option Reading :=
  match r.mode with
  | .items => r.item? c
  | .escape =>
    if c = 's' then some (r.push (.atom .blank))
    else if c ∈ specialChars then some (r.push (.atom (.char c)))
    else none
  | .set done =>
    if c = ']' then some (r.push (.atom (.oneOf done.reverse))) else some { r with mode := .set (c :: done) }
  | .opening 0 => if c = '?' then some { r with mode := .opening 1 } else none
  | .opening 1 =>
    if c = ':' then some ⟨.items, .fresh, (.plain, r.level) :: r.outer⟩
    else if c = 'P' then some { r with mode := .opening 2 }
    else none
  | .opening _ => if c = '<' then some { r with mode := .name [] } else none
  | .name done =>
    if c = '>' then some ⟨.items, .fresh, (.named done.reverse, r.level) :: r.outer⟩
    else some { r with mode := .name (c :: done) }

/-- The pattern of a reading that may end here. -/
def finish? (r : Reading) : Option Pattern :=
  if r.mode = .items ∧ r.outer = [] then some r.level.close else none

end Reading

/-- The pattern that a text writes. -/
def read? (t : Text) : Option Pattern := (t.foldlM Reading.step? Reading.fresh).bind Reading.finish?

/-- A small pattern and its text. -/
example : read? "^a(?:b|c)?\\s*$".toList =
    some (sequence [.lineStart, .atom (.char 'a'),
      .optional (.group (choice [.atom (.char 'b'), .atom (.char 'c')])),
      .repeated false [.blank], .lineEnd]) := by decide +kernel

end Counterpart.Pattern
