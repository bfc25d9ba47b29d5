import Excerpt.Passage.Basic

/-!
Sections. A section runs from its heading to the next heading that is not deeper.
-/

namespace Excerpt

/-- Whether a token ends a section of the given depth. -/
def Token.ends (depth : Option Nat) (t : Token) : Bool :=
  match t.depth?, depth with
  | some d, some e => t.isHeading && d ≤ e
  | _, _ => false

namespace Passage

/-- What follows a heading in its section. -/
def body (heading : Passage) (following : List Passage) : List Passage :=
  following.takeWhile fun p => !p.token.ends heading.token.depth?

def asSection (heading : Passage) (following : List Passage) : Passage :=
  let inner := heading.body following
  { heading with
    stop := (inner.getLast?.map Passage.stop).getD heading.stop
    inner := some inner }

/-- A section for each heading that passes a test. -/
def sections (opens : Token → Bool) : List Passage → List Passage
  | [] => []
  | p :: ps =>
    if p.token.isHeading && opens p.token then p.asSection ps :: sections opens ps
    else sections opens ps

/-- Whether some heading that passes the test meets a heading of unknown depth, or has none itself,
so that the two cannot be compared. -/
def sectionsUnclear (opens : Token → Bool) : List Passage → Bool
  | [] => false
  | p :: ps =>
    (p.token.isHeading && opens p.token &&
      (ps.find? fun q => q.token.isHeading &&
        (q.token.depth?.isNone || p.token.depth?.isNone || q.token.ends p.token.depth?)).any
        fun q => q.token.depth?.isNone || p.token.depth?.isNone) ||
    sectionsUnclear opens ps

end Passage

end Excerpt
