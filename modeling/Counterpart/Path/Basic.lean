import Counterpart.Text.Basic

/-!
# Paths

A path is an anchor and the components below it.  Reading a path from text drops what does not matter for
where it leads on any file system: empty components and single dots.  Double dots stay, since behind a link
they do not lead back.
-/

namespace Counterpart

/-- Whether a text can be a component of a path: not empty, not a single dot, and without slashes. -/
def isComponent (t : Text) : Bool := t ≠ [] && t ≠ ['.'] && !t.contains '/'

/-- A component of a path. -/
abbrev Component := { t : Text // isComponent t = true }

namespace Component

/-- A text as a component, if it can be one. -/
def ofText? (t : Text) : Option Component := if h : isComponent t = true then some ⟨t, h⟩ else none

/-- The component that leads to the parent. -/
def up : Component := ⟨['.', '.'], by decide⟩

theorem ofText?_val (c : Component) : ofText? c.val = some c := by simp [ofText?, c.property]

end Component

/-- Where a path starts: at the working directory, at the root, or at the root written with two slashes,
which is kept apart. -/
inductive Anchor
  | working
  | root
  | doubleRoot
deriving Repr, DecidableEq

/-- The slashes that write an anchor. -/
def Anchor.text : Anchor → Text
  | .working => []
  | .root => ['/']
  | .doubleRoot => ['/', '/']

/-- The anchor of a path's text.  Three slashes and more are as good as one. -/
def Anchor.ofText : Text → Anchor
  | '/' :: '/' :: '/' :: _ => .root
  | '/' :: '/' :: _ => .doubleRoot
  | '/' :: _ => .root
  | _ => .working

/-- A path. -/
structure Path where
  anchor : Anchor
  components : List Component
deriving Repr, DecidableEq

namespace Path

/-- The path that a text writes. -/
def ofText (t : Text) : Path := ⟨Anchor.ofText t, (t.splitOn '/').filterMap Component.ofText?⟩

/-- The components of a path as a text. -/
def componentsText (components : List Component) : Text := Text.join '/' (components.map (·.val))

/-- The text of a path; a dot if there is nothing else to write. -/
def text (p : Path) : Text :=
  if p.anchor = .working ∧ p.components = [] then ['.']
  else p.anchor.text ++ componentsText p.components

/-- The text of a path, to be shown. -/
def shown (p : Path) : String := Text.toString p.text

/-- The working directory. -/
def here : Path := ⟨.working, []⟩

/-- The root. -/
def root : Path := ⟨.root, []⟩

/-- Whether a path does not depend on the working directory. -/
def isAbsolute (p : Path) : Bool := p.anchor ≠ .working

/-- The last component; empty if there is none. -/
def name (p : Path) : Text := (p.components.getLast?.map (·.val)).getD []

/-- The path without its last component. -/
def parent (p : Path) : Path := { p with components := p.components.dropLast }

/-- The path one component further. -/
def child (p : Path) (c : Component) : Path := { p with components := p.components ++ [c] }

/-- `q` seen from `p`: below `p`, unless `q` has an anchor of its own. -/
def join (p q : Path) : Path :=
  if q.isAbsolute then q else { p with components := p.components ++ q.components }

/-- The last part of a path's text, behind the last slash.  It differs from the name only for the working
directory, whose text is a dot. -/
def lastPart (p : Path) : Text := Text.afterLast '/' p.text

/-! ## Normal form -/

/-- One component onto the components so far, last first.  Double dots take the last one back; at a root they
lead nowhere, and at the working directory they stay. -/
def climb (anchor : Anchor) (done : List Component) (c : Component) : List Component :=
  if c ≠ .up then c :: done
  else match done with
    | [] => if anchor = .working then [c] else []
    | d :: rest => if d = .up then c :: done else rest

/-- The path with its double dots taken back textually, as if there were no links. -/
def normal (p : Path) : Path := { p with components := (p.components.foldl (climb p.anchor) []).reverse }

/-- The path seen from a working directory, in normal form. -/
def absolute (p cwd : Path) : Path := (cwd.join p).normal

/-- The components of `ps` and `qs` behind their longest common beginning. -/
def withoutCommon : List Component → List Component → List Component × List Component
  | p :: ps, q :: qs => if p = q then withoutCommon ps qs else (p :: ps, q :: qs)
  | ps, qs => (ps, qs)

/-- The way to `p` from the directory `base`: up to where they part, then down. -/
def relativeTo (p base cwd : Path) : Path :=
  let (down, up) := withoutCommon (p.absolute cwd).components (base.absolute cwd).components
  ⟨.working, List.replicate up.length .up ++ down⟩

/-- A path without anything is the working directory, and a dot writes it. -/
theorem ofText_dot : ofText ['.'] = here := by decide

end Path

end Counterpart
