import Excerpt.Passage.Item
import Excerpt.Passage.Section
import Excerpt.Selector.Segment

/-!
Resolution of selectors. A scope segment confines the segments behind it to each of its sections;
any other segment passes on what it selects.
-/

namespace Excerpt

namespace Segment

/-- Whether a token is what a word asks for and its text passes the test. -/
def opens (s : Segment) (w : Word) (t : Token) : Bool :=
  w.fits t && Matcher.accepts? s.matcher t.comparable

/-- What a single segment selects. -/
def select (s : Segment) (ps : List Passage) : List Passage :=
  match s.word with
  | none => []
  | some (.scope d) => Position.pick? s.position (Passage.sections (s.opens (.scope d)) ps)
  | some .item =>
    Position.pick? s.position
      ((Passage.items ps).filter fun p => Matcher.accepts? s.matcher p.token.comparable)
  | some w => Position.pick? s.position (ps.filter fun p => s.opens w p.token)

def isScope (s : Segment) : Bool := s.word.any Word.isScope

end Segment

def Passage.innerList (p : Passage) : List Passage := p.inner.getD []

/-- What a selector selects among passages, in the order of discovery. -/
def resolve (ps : List Passage) : List Segment → List Passage
  | [] => ps
  | s :: ss =>
    if s.isScope && !ss.isEmpty then (s.select ps).flatMap fun p => resolve p.innerList ss
    else resolve (s.select ps) ss

/-- Whether resolution has to compare headings whose depth is unknown. -/
def unclear (ps : List Passage) : List Segment → Bool
  | [] => false
  | s :: ss =>
    match s.word with
    | some (.scope d) =>
      Passage.sectionsUnclear (s.opens (.scope d)) ps ||
        (!ss.isEmpty && (s.select ps).any fun p => unclear p.innerList ss)
    | _ => unclear (s.select ps) ss

/-- Resolution among passages that need not come from a document. -/
def resolve? (ps : List Passage) (ss : List Segment) : Option (List Passage) :=
  if unclear ps ss then none else some (resolve ps ss)

end Excerpt
