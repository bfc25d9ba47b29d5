import Excerpt.Text.Blank
import Excerpt.Number.Integer

/-!
List markers: a bullet, or up to nine digits and a delimiter.
-/

namespace Excerpt

inductive Bullet where
  | sign (c : Char)
  | number (n : Nat) (delimiter : Char)
  deriving DecidableEq, Repr

namespace Bullet

/-- What the items of one list have in common. -/
def kind : Bullet → Char
  | sign c => c
  | number _ d => d

def number? : Bullet → Option Nat
  | sign _ => none
  | number n _ => some n

def isSign (c : Char) : Bool := c == '*' || c == '+' || c == '-'

def isDelimiter (c : Char) : Bool := c == '.' || c == ')'

/-- A bullet at the start of a text, with its width and what follows it. -/
def read? (t : Text) : Option (Bullet × Nat × Text) :=
  let digits := t.takeWhile Text.isDigit
  match t, t.dropWhile Text.isDigit with
  | [], _ => none
  | c :: r, after =>
    if isSign c then some (sign c, 1, r)
    else if 1 ≤ digits.length && digits.length ≤ 9 then
      match after with
      | [] => none
      | d :: r =>
        if isDelimiter d then some (number (Numeral.valueOf digits) d, digits.length + 1, r)
        else none
    else none

end Bullet

structure Marker where
  indent : Nat
  bullet : Bullet
  width : Nat
  gap : Nat
  content : Text
  deriving DecidableEq, Repr

namespace Marker

/-- The marker that a line starts with: at most three spaces, a bullet, then a gap or nothing. -/
def read? (line : Text) : Option Marker :=
  let lead := line.takeWhile (· == ' ')
  if lead.length ≤ 3 then
    match Bullet.read? (line.dropWhile (· == ' ')) with
    | none => none
    | some (b, width, r) =>
      let gap := (r.takeWhile Text.isGap).length
      if gap == 0 && !r.isEmpty then none
      else some ⟨lead.length, b, width, gap, r.dropWhile Text.isGap⟩
  else none

/-- The columns that a line needs to belong to the item. -/
def contentIndent (m : Marker) : Nat :=
  let stop := m.indent + m.width
  if m.content.all Text.isBlank || 4 < m.gap then stop + 1 else stop + m.gap

end Marker

/-- The check box at the start of an item, and the text behind it. -/
def readCheckbox (t : Text) : Option Bool × Text :=
  match t with
  | '[' :: c :: ']' :: g :: r =>
    if (c == ' ' || c == 'x' || c == 'X') && Text.isGap g then
      (some (c != ' '), r.dropWhile Text.isGap)
    else (none, t)
  | _ => (none, t)

end Excerpt
