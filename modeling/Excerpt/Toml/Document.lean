import Excerpt.Toml.Literal

/-!
Configuration files as a whole: entries, and headings that say to which table the entries below
them belong. A table may be declared once, and what is written in line is closed.
-/

namespace Excerpt.Toml

/-- What has been read so far. -/
structure Draft where
  root : Table := []
  /-- The table to which entries belong. -/
  current : Path := []
  /-- Tables that no heading may name any more. -/
  declared : List Path := []
  /-- Tables that dotted keys opened below the current heading. -/
  pending : List Path := []
  /-- Inline tables and arrays: nothing may be added to them. -/
  closed : List Path := []

namespace Draft

def orInvalid {α : Type} : Option α → Except Fault α
  | some a => .ok a
  | none => .error .invalid

def refuseIf (b : Bool) : Except Fault Unit := if b then .error .invalid else .ok ()

/-- At a heading, the tables that dotted keys opened count as declared. -/
def settle (d : Draft) : Draft := { d with declared := d.pending ++ d.declared, pending := [] }

/-- `[path]` -/
def declare (d : Draft) (path : Path) : Except Fault Draft := do
  refuseIf (d.declared.contains path || isClosed d.closed path)
  let root ← orInvalid (d.root.openAt? path)
  return { d with root, current := path, declared := path :: d.declared }

/-- `[[path]]`: what was declared below the path was declared of the table before. -/
def append (d : Draft) (k : Key) : Except Fault Draft := do
  refuseIf (isClosed d.closed k.path)
  let outside (ps : List Path) : List Path := ps.filter fun p => !k.path.isPrefixOf p
  let root ← orInvalid (d.root.extendAt? k.parent k.name)
  return { d with
    root, current := k.path, declared := k.path :: outside d.declared, closed := outside d.closed }

/-- The tables that a dotted key opens, from the outermost. -/
def opened (current : Path) : Path → List Path
  | [] => []
  | name :: names => (current ++ [name]) :: opened (current ++ [name]) names

/-- `key = value` -/
def enter (d : Draft) (k : Key) (v : Value) : Except Fault Draft := do
  let between := opened d.current k.parent
  refuseIf (between.any d.declared.contains)
  let parent := d.current ++ k.parent
  refuseIf (isClosed d.closed parent)
  let root ← orInvalid (d.root.enterAt? true parent k.name v)
  return { d with
    root, pending := between ++ d.pending
    closed := if v.isCompound then (parent ++ [k.name]) :: d.closed else d.closed }

/-- One statement, and the rest of its line. -/
def statement (d : Draft) (t : Text) : Except Fault (Draft × Text) :=
  match t with
  | '[' :: '[' :: r => do
    let (k, rest) ← key (dropGap r)
    let d ← d.settle.append k
    return (d, dropGap (← expect [']', ']'] rest))
  | '[' :: r => do
    let (k, rest) ← key (dropGap r)
    let d ← d.settle.declare k.path
    return (d, dropGap (← expect [']'] rest))
  | c :: r =>
    if isKeyStart c then do
      let ((k, v), rest) ← entry (c :: r)
      return (← d.enter k v, dropGap rest)
    else .ok (d, c :: r)
  | [] => .ok (d, [])

/-- Reads line after line. The first argument bounds their number. -/
def lines : Nat → Draft → Text → Except Fault Table
  | 0, d, _ => .ok d.root
  | fuel + 1, d, t => do
    let (d, rest) ← d.statement (dropGap t)
    match ← skipComment rest with
    | [] => return d.root
    | '\n' :: rest => lines fuel d rest
    | _ => .error .invalid

end Draft

/-- Lines end with a feed, perhaps behind a return. -/
def joinEnds : Text → Text
  | '\r' :: '\n' :: r => '\n' :: joinEnds r
  | c :: r => c :: joinEnds r
  | [] => []

def read (t : Text) : Except Fault Table :=
  let t := joinEnds t
  Draft.lines (t.length + 1) {} t

end Excerpt.Toml
