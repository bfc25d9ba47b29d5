import Excerpt.Disk.Walk

/-!
Plain changes to a tree: writing a file in place, making folders, removing, setting modes.
-/

namespace Excerpt.Disk

/-- The mode of a new file. -/
def plainMode : Nat := 0o644

/-- Makes the folders that lead to a place, where they are missing. -/
def makeFolders (d : Disk) (folder : Place) : List Text → Disk
  | [] => d
  | name :: rest =>
    let next := Route.goTo folder name
    makeFolders (if (d.node? next).isNone then d.put next (.folder folderMode) else d) next rest

/-- Whether the nodes in a folder may be exchanged. -/
def mayChange (d : Disk) (folder : Place) : Bool :=
  match d.node? folder with
  | some (.folder mode) => Right.write.isGranted mode && Right.search.isGranted mode
  | _ => false

/-- The place that a path would have: its folder is looked up and the name added. A link to nowhere
leads to the place that it names. The last argument says over how many links the path may lead. -/
def newPlace (d : Disk) (folder : Place) (path : Text) : Nat → Except Errno Place
  | 0 => .error .tooManyLinks
  | links + 1 =>
    match d.look folder path false with
    | .ok (p, .link goal) => newPlace d p.dropLast goal links
    | .ok (p, _) => .ok p
    | .error _ =>
      let names := (path.pieces '/').filter (!·.isEmpty)
      match d.walk true linkLimit (startOf folder path) names.dropLast with
      | .ok (p, .folder _) =>
        if path.getLast? == some '/' then .error .isFolder
        else if d.mayChange p then .ok (p ++ [names.getLast?.getD []])
        else .error .denied
      | .ok _ => .error .notFolder
      | .error e => .error e

/-- The place that a path has, or would have. -/
def target (d : Disk) (current : Place) (r : Route) : Except Errno Place :=
  match d.look current r.toText true with
  | .ok (p, _) => .ok p
  | .error .noEntry => d.newPlace current r.toText (linkLimit + 1)
  | .error e => .error e

/-- Writes a file in place; a file that is there keeps its identity. -/
def writeFile (d : Disk) (current : Place) (r : Route) (new : List UInt8) : Except Errno Disk := do
  let p ← d.target current r
  match d.node? p with
  | some (.file f) =>
    if Right.write.isGranted f.mode then
      let f := { f with bytes := new, mode := plainer f.mode, modified := d.clock }
      return (d.put p (.file f)).tick
    else .error .denied
  | none => return (d.put p (.file ⟨new, plainMode, d.clock, d.clock⟩)).tick
  | some (.folder _) => .error .isFolder
  | some _ => .error .failedTransfer

/-- Removes what a path names; a link is removed itself. -/
def remove (d : Disk) (current : Place) (r : Route) : Except Errno Disk := do
  let (p, n) ← d.look current r.toText false
  if r.names.isEmpty || r.name == parentName then .error .isFolder
  else if !d.mayChange p.dropLast then .error .denied
  else
    match n with
    | .folder _ => .error .isFolder
    | _ => return d.erase p

/-- Sets the mode of the file or folder to which a path leads. -/
def setMode (d : Disk) (current : Place) (r : Route) (mode : Nat) : Except Errno Disk := do
  match ← d.look current r.toText true with
  | (p, .file f) => return d.put p (.file { f with mode })
  | (p, .folder _) => return d.put p (.folder mode)
  | _ => return d

/-- Whether a file is met by one who goes through all folders below another one: they may be read,
and those that hold folders may be searched. -/
def isListed (d : Disk) (top p : Place) : Bool :=
  (List.range (p.length - top.length)).all fun n =>
    match d.node? (p.take (top.length + n)) with
    | some (.folder mode) =>
      Right.read.isGranted mode &&
        (top.length + n + 1 == p.length || Right.search.isGranted mode)
    | _ => false

/-- Puts a node where nothing is yet. -/
def place (d : Disk) (current : Place) (r : Route) (n : Node) : Except Errno Disk := do
  let (folder, _) ← d.look current r.parent.toText true
  return d.put (folder ++ [r.name]) n

end Excerpt.Disk
