import Excerpt.Markdown.Extent
import Excerpt.Markdown.Token

/-!
Blocks of a document. `Block.opening` tells what the first line of a block makes of it, the extent
tells its further lines, and the content is read off the lines of the block alone.
-/

namespace Excerpt

def Text.unlines (ls : List Text) : Text := Text.joinWith ['\n'] ls

def Line.stripped (l : Line) : Text := Text.strip l.body

inductive Opening where
  | space
  | fenced (fence : Fence) (info : Text)
  | indented
  | heading (depth : Nat) (text : Text)
  | rule
  | quote
  | list (marker : Marker)
  | table (header : List Text) (align : List (Option Align))
  | paragraph

namespace Opening

def read (l : Line) (ls : List Line) : Opening :=
  if l.isBlank then space
  else match Fence.opening? l.body with
  | some (f, info) => fenced f (Text.strip info)
  | none =>
    if isIndented l.body then indented
    else match Heading.hashed? l.body with
    | some (d, t) => heading d t
    | none =>
      if isRule l.body then rule
      else if (quoted? l.body).isSome then quote
      else match Marker.read? l.body with
      | some m => list m
      | none =>
        match tableAt? l ls with
        | some (header, align) => table header align
        | none => paragraph

/-- How many lines after the first belong to the block. -/
def extent (ls : List Line) : Opening → Nat
  | space => Extent.space ls
  | fenced f _ => Extent.fenced f ls
  | indented => Extent.indented ls
  | heading .. => 0
  | rule => 0
  | quote => Extent.quote ls
  | list m => (Extent.list m.bullet.kind m.contentIndent ls).length
  | table .. => Extent.rows ls.tail + 1
  | paragraph => (Extent.paragraph ls).1

end Opening

/-- The text of an item, from the marker of its first line and its further lines. -/
def Marker.itemText (m : Marker) (ls : List Line) : Text :=
  Text.strip <| Text.unlines <| m.content :: ls.map fun l =>
    if m.contentIndent ≤ Text.columns l.body then Text.dropColumns m.contentIndent l.body
    else l.stripped

def Token.ofItem (l : Line) (ls : List Line) : Token :=
  let text := match Marker.read? l.body with
    | some m => m.itemText ls
    | none => Text.strip (Text.unlines ((l :: ls).map Line.stripped))
  let (checked, text) := readCheckbox text
  .mk (Line.joined (l :: ls)) (.item checked text)

/-- Splits the further lines of a list into those before its next item and the other items. -/
def splitItems : List (Line × Bool) → List Line × List (Line × List Line)
  | [] => ([], [])
  | (l, starts) :: r =>
    let (own, others) := splitItems r
    if starts then ([], (l, own) :: others) else (l :: own, others)

namespace Opening

/-- What a block says, from its first line `l` and all its further lines `ls`. -/
def content (l : Line) (ls : List Line) : Opening → Content Token
  | space => .space
  | fenced f info =>
    let body := ls.takeWhile fun l => !f.closedBy l.body
    .code (if info.isEmpty then none else some (Text.firstWord info))
      (Text.unlines (body.map fun l => Text.dropColumns f.indent l.body))
  | indented => .code none (Text.unlines ((l :: ls).map fun l => Text.dropColumns 4 l.body))
  | heading d t => .heading (some d) t
  | rule => .rule
  | quote =>
    .quote <| Text.strip <| Text.unlines <| (l :: ls).map fun l => (quoted? l.body).getD l.stripped
  | list m =>
    let (own, others) := splitItems (ls.zip (Extent.list m.bullet.kind m.contentIndent ls))
    .list m.bullet.number? (Token.ofItem l own :: others.map fun (l, ls) => .ofItem l ls)
  | table header align =>
    .table header align (ls.tail.map fun l => (Row.cells l.body).take header.length)
  | paragraph =>
    match (Extent.paragraph ls).2 with
    | some d => .heading (some d) (Text.unlines ((l :: ls.dropLast).map Line.stripped))
    | none => .paragraph (Text.unlines ((l :: ls).map Line.stripped))

end Opening

namespace Token

def ofLines (l : Line) (ls : List Line) (o : Opening) : Token :=
  .mk (Line.joined (l :: ls)) (o.content l ls)

/-- The blocks of a document, one after the other. -/
def blocks : List Line → List Token
  | [] => []
  | l :: ls =>
    let o := Opening.read l ls
    ofLines l (ls.take (o.extent ls)) o :: blocks (ls.drop (o.extent ls))
termination_by ls => ls.length
decreasing_by simp only [List.length_drop, List.length_cons]; omega

def ofText (source : Text) : List Token := blocks (Text.lines source)

end Token

end Excerpt
