import Excerpt.Text.Line
import Excerpt.Markdown.Fence
import Excerpt.Markdown.Heading
import Excerpt.Markdown.Marker
import Excerpt.Markdown.Row

/-!
What kind of block a line opens, and which lines may cut a running block short.
-/

namespace Excerpt

/-- Four columns of indentation make code. -/
def isIndented (line : Text) : Bool := 4 ≤ Text.columns line

/-- The header cells and alignments of a table whose first two lines are given. -/
def tableHead? (first second : Text) : Option (List Text × List (Option Align)) :=
  let delimiters := Row.cells second
  let header := Row.cells first
  if (first.contains '|' || second.contains '|') && !isIndented first &&
      delimiters.all Align.isDelimiter && header.length == delimiters.length then
    some (header, delimiters.map Align.ofDelimiter)
  else none

def tableAt? (first : Line) : List Line → Option (List Text × List (Option Align))
  | [] => none
  | second :: _ => tableHead? first.body second.body

namespace Line

/-- A fence, a heading, a rule or a quote: it ends any run of text. -/
def opensBlock (l : Line) : Bool :=
  !isIndented l.body &&
    ((Fence.opening? l.body).isSome || (Heading.hashed? l.body).isSome || isRule l.body ||
      (quoted? l.body).isSome)

/-- An item that may cut a run of text short: it has content, and a number must be one. -/
def opensItem (l : Line) : Bool :=
  match Marker.read? l.body with
  | none => false
  | some m =>
    !m.content.all Text.isBlank && (m.bullet.number? == none || m.bullet.number? == some 1)

/-- Whether a line ends the run of text before it; a table needs a look at the next line. -/
def interrupts (l : Line) (next : List Line) : Bool :=
  l.opensBlock || (!isIndented l.body && (l.opensItem || (tableAt? l next).isSome))

end Line

end Excerpt
