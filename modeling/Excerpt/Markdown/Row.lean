import Excerpt.Text.Blank

/-!
Table rows. Pipes separate cells unless a backslash escapes them; the outer pipes are optional.
-/

namespace Excerpt

namespace Row

/-- Whether the backslashes at the end of a text are odd in number, and so escape what follows. -/
def escapesNext (t : Text) : Bool := (t.reverse.takeWhile (· == '\\')).length % 2 == 1

/-- Whether the character at a position is escaped. -/
def isEscaped (t : Text) (i : Nat) : Bool := i ≤ t.length && escapesNext (t.take i)

/-- Splits at the unescaped pipes; `odd` says whether an odd run of backslashes came just before. -/
def splitFrom (odd : Bool) : Text → List Text
  | [] => [[]]
  | c :: r =>
    if c == '|' && !odd then [] :: splitFrom false r
    else
      match splitFrom (c == '\\' && !odd) r with
      | [] => [[c]]
      | cell :: cells => (c :: cell) :: cells

def dropOuterPipes (t : Text) : Text :=
  let t := match t with
    | '|' :: r => r
    | t => t
  if t.getLast? == some '|' && !escapesNext t.dropLast then t.dropLast else t

/-- Writes an escaped pipe as a plain one. -/
def unescape : Text → Text
  | '\\' :: '|' :: r => '|' :: unescape r
  | c :: r => c :: unescape r
  | [] => []

def cells (line : Text) : List Text :=
  (splitFrom false (dropOuterPipes (Text.strip line))).map fun c => unescape (Text.strip c)

end Row

inductive Align where
  | left
  | center
  | right
  deriving DecidableEq, Repr

namespace Align

/-- A cell of the delimiter row: dashes, with a colon on the sides that the column is aligned to. -/
def isDelimiter (cell : Text) : Bool :=
  let t := match cell with
    | ':' :: r => r
    | t => t
  !(t.takeWhile (· == '-')).isEmpty &&
    (t.dropWhile (· == '-') == [] || t.dropWhile (· == '-') == [':'])

def ofDelimiter (cell : Text) : Option Align :=
  match cell.head? == some ':', cell.getLast? == some ':' with
  | true, true => some center
  | false, true => some right
  | true, false => some left
  | false, false => none

end Align

end Excerpt
