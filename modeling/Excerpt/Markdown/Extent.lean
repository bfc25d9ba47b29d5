import Excerpt.Markdown.Opening

/-!
How far a block reaches. Each function gets the lines after the first one of a block and tells how
many of them belong to it.
-/

namespace Excerpt.Extent

def space (ls : List Line) : Nat := (ls.takeWhile Line.isBlank).length

/-- Up to the closing fence, or to the end. -/
def fenced (f : Fence) : List Line → Nat
  | [] => 0
  | l :: ls => if f.closedBy l.body then 1 else fenced f ls + 1

/-- Up to the last indented line; blank lines count only between indented ones. -/
def indented : List Line → Nat
  | [] => 0
  | l :: ls =>
    let n := indented ls
    if l.isBlank then if n == 0 then 0 else n + 1
    else if isIndented l.body then n + 1 else 0

/-- Quoted lines, and lines that carry the quoted text on. -/
def quote : List Line → Nat
  | [] => 0
  | l :: ls =>
    if l.isBlank then 0
    else if (quoted? l.body).isSome then quote ls + 1
    else if l.interrupts ls then 0
    else quote ls + 1

/-- Rows of a table, after its two head lines. -/
def rows : List Line → Nat
  | [] => 0
  | l :: ls => if l.isBlank || l.opensBlock || l.opensItem then 0 else rows ls + 1

/-- Lines of a paragraph, and the depth that an underline below them gives. -/
def paragraph : List Line → Nat × Option Nat
  | [] => (0, none)
  | l :: ls =>
    if l.isBlank then (0, none)
    else match Heading.underline? l.body with
      | some d => (1, some d)
      | none =>
        if l.interrupts ls then (0, none)
        else ((paragraph ls).1 + 1, (paragraph ls).2)

/-- Whether a list goes on behind blank lines: with an indented line or with another item. -/
def resumes (kind : Char) (indent : Nat) : List Line → Bool
  | [] => false
  | l :: _ =>
    indent ≤ Text.columns l.body ||
      ((Marker.read? l.body).any (·.bullet.kind == kind) && !isRule l.body)

/-- The lines of a list after its first one, each with whether it starts an item. `indent` is what a
line needs to belong to the current item whatever it holds. -/
def list (kind : Char) (indent : Nat) : List Line → List Bool
  | [] => []
  | l :: ls =>
    if l.isBlank then
      if resumes kind indent (ls.dropWhile Line.isBlank) then false :: list kind indent ls else []
    else if indent ≤ Text.columns l.body then false :: list kind indent ls
    else if isRule l.body then []
    else match Marker.read? l.body with
      | some m => if m.bullet.kind == kind then true :: list kind m.contentIndent ls else []
      | none => if l.interrupts ls then [] else false :: list kind indent ls

end Excerpt.Extent
