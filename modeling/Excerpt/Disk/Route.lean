import Excerpt.Disk.Basic

/-!
Written paths. Empty names and single points are dropped as a path is read; double points stay,
for what they mean depends on the links before them.
-/

namespace Excerpt

/-- Where a path starts. Two slashes are told apart from one, and three or more count as one. -/
inductive Anchor where
  | here
  | root
  | doubleRoot
  deriving DecidableEq, Repr

structure Route where
  anchor : Anchor
  names : List Text
  deriving DecidableEq, Repr

def parentName : Text := ['.', '.']

namespace Anchor

def ofText : Text → Anchor
  | ['/', '/'] => doubleRoot
  | '/' :: '/' :: c :: _ => if c == '/' then root else doubleRoot
  | '/' :: _ => root
  | _ => here

def toText : Anchor → Text
  | here => []
  | root => ['/']
  | doubleRoot => ['/', '/']

def isAbsolute : Anchor → Bool
  | here => false
  | _ => true

end Anchor

namespace Route

def ofText (t : Text) : Route :=
  ⟨Anchor.ofText t, (t.pieces '/').filter fun p => !p.isEmpty && p != ['.']⟩

def ofPlace (p : Place) : Route := ⟨.root, p⟩

/-- A path without anchor and names is the current folder. -/
def toText (r : Route) : Text :=
  match r.anchor.toText ++ Text.joinWith ['/'] r.names with
  | [] => ['.']
  | t => t

/-- The path and the paths to the folders above it, as far as it is written. -/
def lineage (r : Route) : List Route :=
  (List.range (r.names.length + 1)).map fun n => { r with names := r.names.take n }

def name (r : Route) : Text := r.names.getLast?.getD []

/-- The folder of a path. -/
def parent (r : Route) : Route := { r with names := r.names.dropLast }

def child (r : Route) (name : Text) : Route := { r with names := r.names ++ [name] }

def hasNull (r : Route) : Bool := r.names.any (·.contains '\x00')

/-- The path as far as no name has a null character in it. -/
def beforeNull (r : Route) : Route :=
  { r with names := r.names.takeWhile fun n => !n.contains '\x00' }

/-- Goes up by one name. Above a path that only goes up, it goes up further. -/
def up (r : Route) : Route :=
  match r.names.getLast? with
  | none => if r.anchor.isAbsolute then r else { r with names := [parentName] }
  | some last =>
    if last == parentName then { r with names := r.names ++ [parentName] }
    else { r with names := r.names.dropLast }

/-- Goes to a name from a place, not minding links. -/
def goTo (p : Place) (name : Text) : Place := if name == parentName then p.dropLast else p ++ [name]

/-- The place that a path names from a current folder, if no links are on the way. -/
def placeFrom (current : Place) (r : Route) : Place :=
  r.names.foldl goTo (if r.anchor.isAbsolute then [] else current)

/-- The end of a name from its last point on, if something is on both sides of the point. -/
def suffixOf (name : Text) : Text :=
  let tail := name.reverse.takeWhile (· != '.')
  if tail.isEmpty || name.length ≤ tail.length + 1 then []
  else '.' :: tail.reverse

end Route

end Excerpt
