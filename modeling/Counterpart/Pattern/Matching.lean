import Counterpart.Pattern.Basic

/-!
# Matching

Where a pattern can lead from a place in a text: all cursors that it reaches, in the order in which they are
preferred.  The match is the first of them, so preferring early alternatives and long repetitions is nothing
but an order of a list.
-/

namespace Counterpart

/-- A place in a text and the groups kept on the way to it. -/
structure Cursor where
  /-- How many characters lie behind. -/
  behind : Nat
  /-- The text ahead. -/
  ahead : Text
  /-- Names and texts of the groups, the last one closed first. -/
  groups : List (Text × Text)
deriving Repr, DecidableEq

namespace Cursor

/-- The cursor before a text. -/
def start (t : Text) : Cursor := ⟨0, t, []⟩

/-- One character further, if the atom takes it. -/
def step? (r : Cursor) (a : Atom) : Option Cursor :=
  match r.ahead with
  | c :: rest => if a.takes c then some { r with behind := r.behind + 1, ahead := rest } else none
  | [] => none

/-- A run of atoms further. -/
def run? (r : Cursor) (unit : List Atom) : Option Cursor := unit.foldlM step? r

/-- The cursors that a repeated run reaches, the farthest first; `done` holds those reached before. -/
def repeatRun (unit : List Atom) : Nat → Cursor → List Cursor → List Cursor
  | 0, _, done => done
  | times + 1, r, done =>
    match r.run? unit with
    | some r => repeatRun unit times r (r :: done)
    | none => done

/-- The text of a group. -/
def group? (r : Cursor) (name : Text) : Option Text := r.groups.lookup name

end Cursor

namespace Pattern

/-- The cursors that a pattern reaches, those preferred first. -/
def cursors : Pattern → Cursor → List Cursor
  | .empty, r => [r]
  | .lineStart, r => if r.behind = 0 then [r] else []
  | .lineEnd, r => if r.ahead = [] ∨ r.ahead = ['\n'] then [r] else []
  | .atom a, r => (r.step? a).toList
  | .seq p q, r => (p.cursors r).flatMap q.cursors
  | .either p q, r => p.cursors r ++ q.cursors r
  | .group p, r => p.cursors r
  | .capture name p, r => (p.cursors r).map fun s =>
      { s with groups := (name, r.ahead.take (s.behind - r.behind)) :: s.groups }
  | .optional p, r => p.cursors r ++ [r]
  | .repeated once unit, r =>
    if once then
      match r.run? unit with
      | some s => Cursor.repeatRun unit s.ahead.length s [s]
      | none => []
    else Cursor.repeatRun unit r.ahead.length r [r]

/-- The preferred cursor of a pattern that has to match from the beginning of a text. -/
def match? (p : Pattern) (t : Text) : Option Cursor := (p.cursors (Cursor.start t)).head?

/-- The preferred cursor of a pattern that may match from any place on. -/
def searchFrom (p : Pattern) (behind : Nat) : Text → Option Cursor
  | [] => (p.cursors ⟨behind, [], []⟩).head?
  | c :: rest =>
    match (p.cursors ⟨behind, c :: rest, []⟩).head? with
    | some s => some s
    | none => searchFrom p (behind + 1) rest

/-- Whether a pattern matches somewhere in a text. -/
def isFoundIn (p : Pattern) (t : Text) : Bool := (p.searchFrom 0 t).isSome

end Pattern

end Counterpart
