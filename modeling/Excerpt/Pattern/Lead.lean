import Excerpt.Pattern.Step

/-!
How a pattern starts. A search begins only where the first character can be.
-/

namespace Excerpt.Pattern

/-- What stands first in a sequence. -/
inductive Opening where
  | nothing
  | code (n : Nat)
  | other
  deriving DecidableEq, Repr

mutual

def Node.opening (mode : Mode) : Node → Opening
  | .code n => if mode.isCased n then .other else .code n
  | .plain body | .capture _ body => openingOf mode body
  | .scoped inner body => openingOf inner body
  | _ => .other

def openingOf (mode : Mode) : List Node → Opening
  | [] => .nothing
  | n :: ns =>
    match n.opening mode with
    | .nothing => openingOf mode ns
    | o => o

end

/-- The code at the start of a branch. -/
def branchCode? (mode : Mode) : List Node → Option Item
  | .code n :: _ => if mode.isCased n then none else some (.code n)
  | _ => none

mutual

/-- The class that the first character is in. `ascii` says what its categories mean: they are taken
as the whole pattern takes them, not as the group does that they stand in. -/
def Node.leadClass? (ascii : Bool) (mode : Mode) : Node → Option Test
  | .plain body | .capture _ body => leadClassOf? ascii mode body
  | .scoped inner body => leadClassOf? ascii inner body
  | .choice branches => (branches.mapM (branchCode? mode)).map (.within false ascii)
  | .oneOf negated items =>
    if items.any mode.isCasedItem then none else some (.within negated ascii items)
  | _ => none

def leadClassOf? (ascii : Bool) (mode : Mode) : List Node → Option Test
  | [] => none
  | n :: _ => n.leadClass? ascii mode

end

/-- The test that the first character has to pass. -/
def lead? (mode : Mode) (body : List Node) : Option Test :=
  match openingOf mode body with
  | .code n => some (.code n)
  | _ => leadClassOf? mode.ascii mode body

end Excerpt.Pattern
