import Excerpt.Disk.Fault
import Excerpt.Disk.Route

/-!
Looking up a path name by name, links included.
-/

namespace Excerpt.Disk

/-- A name may have at most this many bytes. -/
def nameLimit : Nat := 255

/-- A path may have at most this many bytes. -/
def pathLimit : Nat := 4095

/-- A path may lead over at most this many links. -/
def linkLimit : Nat := 40

def isLongName (name : Text) : Bool := nameLimit < (Utf8.encode name).length

def isLongPath (path : Text) : Bool := pathLimit < (Utf8.encode path).length

/-- The names of a path. A slash at the end asks for a folder, like a point behind it. -/
def namesOf (path : Text) : List Text :=
  (path.pieces '/').filter (!·.isEmpty) ++ if path.getLast? == some '/' then [['.']] else []

def startOf (current : Place) (path : Text) : Place :=
  if path.head? == some '/' then [] else current

/-- Why no name can be looked up at a place. -/
def barrier? (d : Disk) (p : Place) : Option Errno :=
  match d.node? p with
  | some (.folder mode) => if Right.search.isGranted mode then none else some .denied
  | _ => some .notFolder

/-- Walks from a folder along names. A link at the end is followed only if asked for. The first
argument says over how many more links the walk may lead. -/
def walk (d : Disk) (follow : Bool) (links : Nat) (folder : Place) (names : List Text) :
    Except Errno (Place × Node) :=
  match names with
  | [] =>
    match d.node? folder with
    | some n => .ok (folder, n)
    | none => .error .noEntry
  | name :: rest =>
    match d.barrier? folder with
    | some e => .error e
    | none =>
      if name == ['.'] then walk d follow links folder rest
      else if name == parentName then walk d follow links folder.dropLast rest
      else if isLongName name then .error .nameTooLong
      else
        match d.node? (folder ++ [name]) with
        | none => .error .noEntry
        | some (.link target) =>
          if rest.isEmpty && !follow then .ok (folder ++ [name], .link target)
          else
            match links with
            | 0 => .error .tooManyLinks
            | links + 1 => walk d follow links (startOf folder target) (namesOf target ++ rest)
        | some _ => walk d follow links (folder ++ [name]) rest
termination_by (links, names.length)

/-- Looks up a path as it is written. -/
def look (d : Disk) (current : Place) (path : Text) (follow : Bool) :
    Except Errno (Place × Node) :=
  if path.isEmpty then .error .noEntry
  else if isLongPath path then .error .nameTooLong
  else d.walk follow linkLimit (startOf current path) (namesOf path)

/-- Whether a path leads to a link. -/
def isLink (d : Disk) (current : Place) (path : Text) : Bool :=
  match d.look current path false with
  | .ok (_, .link _) => true
  | _ => false

/-- Whether a path, or one of the folders written in it, is a link. -/
def meetsLink (d : Disk) (current : Place) (r : Route) : Bool :=
  r.lineage.any fun q => d.isLink current q.toText

end Excerpt.Disk
