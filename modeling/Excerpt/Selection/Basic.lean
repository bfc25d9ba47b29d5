import Excerpt.Passage.Resolve

/-!
Selections: passages of a document that selectors, navigation and replacement work on.
-/

namespace Excerpt

structure Selection where
  source : Text
  passages : List Passage

namespace Selection

def ofText (source : Text) : Selection := ⟨source, Passage.index source⟩

def count (s : Selection) : Nat := s.passages.length

def summary (s : Selection) : String := "MarkdownQuery(matches=" ++ toString s.count ++ ")"

def query (s : Selection) (ss : List Segment) : Selection :=
  { s with passages := resolve (Passage.expand s.passages) ss }

def text (s : Selection) : Text := s.passages.flatMap (Passage.text s.source)

def first (s : Selection) : Selection := { s with passages := s.passages.take 1 }

def last (s : Selection) : Selection := { s with passages := s.passages.getLast?.toList }

/-- One selection for each passage. -/
def each (s : Selection) : List Selection := s.passages.map fun p => { s with passages := [p] }

/-- The blocks of the document that end before the first passage starts. -/
def before (s : Selection) : Selection :=
  { s with passages :=
      match s.passages.head? with
      | none => []
      | some p => (Passage.index s.source).filter fun q => q.stop ≤ p.start }

/-- The blocks of the document that start when the last passage has ended. -/
def after (s : Selection) : Selection :=
  { s with passages :=
      match s.passages.getLast? with
      | none => []
      | some p => (Passage.index s.source).filter fun q => p.stop ≤ q.start }

end Selection

end Excerpt
