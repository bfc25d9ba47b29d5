import Excerpt.Disk.Walk

/-!
The real place of a path: every link on the way is replaced by its target.
-/

namespace Excerpt.Disk

/-- What is left to do: to go to a name, or to note where a link has led. -/
inductive Errand where
  | go (name : Text)
  | note (link : Route)
  deriving DecidableEq, Repr

def Errand.name? : Errand → Option Text
  | go name => some name
  | note _ => none

/-- The links met so far, and where they lead once this is known. -/
abbrev Links := List (Route × Option Route)

def targetOf? (links : Links) (r : Route) : Option (Option Route) :=
  (links.find? fun e => e.1 == r).map (·.2)

def errands (t : Text) : List Errand :=
  ((t.pieces '/').filter fun p => !p.isEmpty && p != ['.']).map .go

/-- Where to continue from: an absolute target starts over at the root. -/
def rebase (r : Route) (target : Text) : Route :=
  if target.head? == some '/' then ⟨.root, []⟩ else r

/-- What stands at the end of a path, be it a link. -/
def entry (d : Disk) (current : Place) (r : Route) : Except Errno (Place × Node) :=
  if isLongPath r.toText then .error .nameTooLong
  else d.walk false linkLimit (if r.anchor.isAbsolute then [] else current) r.names

/-- Runs the errands in turn. If `strict`, every name must lead somewhere. The first argument bounds
the number of steps. -/
def settle (d : Disk) (current : Place) (strict : Bool) :
    Nat → Links → Route → List Errand → Except DiskFault Route
  | 0, _, r, _ => .error ⟨.tooManyLinks, r.toText⟩
  | _ + 1, _, r, [] => .ok r
  | steps + 1, links, r, .note link :: rest =>
    settle d current strict steps ((link, some r) :: links) r rest
  | steps + 1, links, r, .go name :: rest =>
    if name == parentName then settle d current strict steps links r.up rest
    else
      let next := r.child name
      match d.entry current next with
      | .error e =>
        if strict then .error ⟨e, next.toText⟩ else settle d current strict steps links next rest
      | .ok (_, .link target) =>
        match targetOf? links next with
        | some (some known) => settle d current strict steps links known rest
        | some none =>
          if strict then .error ⟨.tooManyLinks, next.toText⟩
          else .ok { next with names := next.names ++ rest.filterMap Errand.name? }
        | none =>
          settle d current strict steps ((next, none) :: links) (rebase r target)
            (errands target ++ .note next :: rest)
      | .ok _ => settle d current strict steps links next rest

/-- A bound for the steps: each link is replaced at most once for each way to write its place. -/
def stepLimit (d : Disk) (current : Place) (r : Route) : Nat :=
  let spans := d.nodes.map fun e =>
    match e.2 with
    | .link target => target.length + 2
    | _ => 0
  (r.names.length + 2 + spans.foldl Nat.add 0) * (current.length + 3)

/-- The place of a path behind all links. -/
def real (d : Disk) (current : Place) (strict : Bool) (r : Route) : Except DiskFault Place :=
  let start : Route := if r.anchor.isAbsolute then ⟨.root, []⟩ else ⟨.here, []⟩
  (d.settle current strict (d.stepLimit current r) [] start (r.names.map .go)).map
    (Route.placeFrom current)

end Excerpt.Disk
