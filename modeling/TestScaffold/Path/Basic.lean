import TestScaffold.Text.Basic

/-!
Paths. A path is the text it is written as, and denotes the list of its components: repeated
slashes and inner or final dots are not components, a leading dot is one, and `..` is never
resolved. Operations that answer with a part of a path keep its text as it is written.
-/

namespace TestScaffold

/-- A path, as it is written. -/
structure Path where
  text : Text
  deriving DecidableEq, Repr

namespace Path

inductive Component
  | root
  | current
  | parent
  | name (text : Text)
  deriving DecidableEq, Repr

namespace Component

def name? : Component → Option Text
  | name text => some text
  | _ => none

/-- The component that a segment after the start of a path stands for. -/
def ofSegment? (segment : Text) : Option Component :=
  if segment = [] ∨ segment = ['.'] then none
  else if segment = ['.', '.'] then some parent
  else some (name segment)

def rank : Component → Nat
  | root => 0
  | current => 1
  | parent => 2
  | name _ => 3

/-- Components are ordered by kind, names among themselves by their text. -/
def order : Component → Component → Ordering
  | name a, name b => Text.order a b
  | a, b => compare a.rank b.rank

end Component

/-- What a path starts with, before its first segment. -/
inductive Anchor
  | nothing
  | root
  | current
  deriving DecidableEq, Repr

def Anchor.components : Anchor → List Component
  | nothing => []
  | root => [.root]
  | current => [.current]

/-- A path cut into its start and the segments between the slashes after it. -/
structure Layout where
  anchor : Anchor
  segments : List Text
  deriving DecidableEq, Repr

def isNullSegment (segment : Text) : Bool :=
  (Component.ofSegment? segment).isNone

/-- The segments without the null ones at the end. -/
def trimSegments (segments : List Text) : List Text :=
  (segments.reverse.dropWhile isNullSegment).reverse

/-- What is left of the segments after the first `n` components. -/
def dropComponents : Nat → List Text → List Text
  | 0, segments => segments
  | _ + 1, [] => []
  | n + 1, s :: segments =>
    if isNullSegment s then dropComponents (n + 1) segments else dropComponents n segments

namespace Layout

def path : Layout → Path
  | ⟨.nothing, segments⟩ => ⟨Text.join ['/'] segments⟩
  | ⟨.root, segments⟩ => ⟨'/' :: Text.join ['/'] segments⟩
  | ⟨.current, []⟩ => ⟨['.']⟩
  | ⟨.current, segments⟩ => ⟨'.' :: '/' :: Text.join ['/'] segments⟩

def components (l : Layout) : List Component :=
  l.anchor.components ++ l.segments.filterMap Component.ofSegment?

/-- The layouts above the one with these segments, given in reverse order; nearest first. -/
def parentsOf (anchor : Anchor) : List Text → List Layout
  | [] => if anchor = .current then [⟨.nothing, []⟩] else []
  | s :: segments =>
    if isNullSegment s then parentsOf anchor segments
    else ⟨anchor, trimSegments segments.reverse⟩ :: parentsOf anchor segments

end Layout

def layout (p : Path) : Layout :=
  match p.text with
  | '/' :: t => ⟨.root, Text.fields t '/'⟩
  | ['.'] => ⟨.current, []⟩
  | '.' :: '/' :: t => ⟨.current, Text.fields t '/'⟩
  | t => ⟨.nothing, Text.fields t '/'⟩

/-- What the path denotes. Two spellings of one path have the same components. -/
def components (p : Path) : List Component :=
  p.layout.components

def names (p : Path) : List Text :=
  p.components.filterMap Component.name?

def isAbsolute (p : Path) : Bool :=
  p.text.head? == some '/'

/-- Whether `base` is the path itself or lies above it, component by component. -/
def startsWith (p base : Path) : Bool :=
  base.components.isPrefixOf p.components

/-- The path relative to `base`, as it is written in `p`; none when it does not lie under it. -/
def under? (p base : Path) : Option Path :=
  if p.startsWith base then
    match base.components.length with
    | 0 => some (Layout.path ⟨p.layout.anchor, trimSegments p.layout.segments⟩)
    | n + 1 =>
      -- The start of the path is one of the components that `base` uses up.
      let used := p.layout.anchor.components.length
      let rest := dropComponents (n + 1 - used) p.layout.segments
      some (Layout.path ⟨.nothing, trimSegments (rest.dropWhile isNullSegment)⟩)
  else none

def parents (p : Path) : List Path :=
  (Layout.parentsOf p.layout.anchor p.layout.segments.reverse).map Layout.path

/-- The path without its last component; none for the root and the empty path. -/
def parent? (p : Path) : Option Path :=
  p.parents.head?

def ancestors (p : Path) : List Path :=
  p :: p.parents

/-- The path `q` as seen from `p`; an absolute `q` stands for itself. -/
def join (p q : Path) : Path :=
  if q.isAbsolute then q
  else if p.text = [] ∨ p.text.getLast? = some '/' then ⟨p.text ++ q.text⟩
  else ⟨p.text ++ '/' :: q.text⟩

def child (p : Path) (name : Text) : Path :=
  p.join ⟨name⟩

/-- The root as an absolute path writes it: with two slashes if it begins with just two. -/
def writtenRoot (p : Path) : Path :=
  if p.text.takeWhile (· = '/') = ['/', '/'] then ⟨['/', '/']⟩ else ⟨['/']⟩

/-- The absolute path that `p` is in the directory `cwd`. Dots and repeated slashes are dropped,
except for two at the start; `..` and a final slash are kept. -/
def absolute (cwd p : Path) : Path :=
  let start := if p.isAbsolute then p.writtenRoot else cwd
  let steps := p.layout.segments.filter (!isNullSegment ·)
  let full := steps.foldl child start
  -- Joining the empty path adds a slash.
  if p.text.getLast? = some '/' then full.join ⟨[]⟩ else full

/-- Paths are ordered by their components, not by their text. -/
def order (p q : Path) : Ordering :=
  List.compareLex Component.order p.components q.components

end Path

end TestScaffold
