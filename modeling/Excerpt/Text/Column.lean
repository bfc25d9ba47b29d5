import Excerpt.Text.Basic

/-!
Indentation in columns. A space takes one column, a tab goes on to the next multiple of four.
-/

namespace Excerpt.Text

def afterTab (n : Nat) : Nat := n + (4 - n % 4)

def columnsFrom (n : Nat) : Text → Nat
  | ' ' :: r => columnsFrom (n + 1) r
  | '\t' :: r => columnsFrom (afterTab n) r
  | _ => n

/-- The width of the leading spaces and tabs. -/
def columns (t : Text) : Nat := columnsFrom 0 t

def dropColumnsFrom (limit n : Nat) : Text → Text
  | ' ' :: r => if n < limit then dropColumnsFrom limit (n + 1) r else ' ' :: r
  | '\t' :: r => if n < limit then dropColumnsFrom limit (afterTab n) r else '\t' :: r
  | t => t

/-- Removes leading spaces and tabs until `limit` columns are gone. -/
def dropColumns (limit : Nat) (t : Text) : Text := dropColumnsFrom limit 0 t

end Excerpt.Text
