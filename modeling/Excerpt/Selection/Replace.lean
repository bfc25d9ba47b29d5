import Excerpt.Selection.Basic

/-!
Replacement. Passages are replaced in the order of the document; one that starts inside a passage
already replaced is left out.
-/

namespace Excerpt.Selection

/-- The passages that do not start inside the one kept before; `edge` is where that one ends. -/
def outermost (edge : Nat) : List Passage → List Passage
  | [] => []
  | p :: ps => if p.start < edge then outermost edge ps else p :: outermost p.stop ps

def inOrder (ps : List Passage) : List Passage := ps.mergeSort fun p q => p.start ≤ q.start

def replaced (s : Selection) : List Passage := outermost 0 (inOrder s.passages)

/-- The source from offset `cursor` on, with `content` in place of each passage. -/
def splice (source content : Text) (cursor : Nat) : List Passage → Text
  | [] => source.drop cursor
  | p :: ps => (source.take p.start).drop cursor ++ content ++ splice source content p.stop ps

def replace (s : Selection) (content : Text) : Text := splice s.source content 0 s.replaced

end Excerpt.Selection
