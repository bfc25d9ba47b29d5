/-!
Text as a list of characters, and sets of code points.
-/

namespace Excerpt

abbrev Text := List Char

namespace Text

/-- A set of code points, as closed intervals in ascending order. -/
abbrev Intervals := List (Nat × Nat)

def within : Intervals → Nat → Bool
  | [], _ => false
  | (lo, hi) :: s, n => if n < lo then false else n ≤ hi || within s n

def joinWith (sep : Text) (ts : List Text) : Text := (ts.intersperse sep).flatten

/-- The pieces between separators, empty ones too. -/
def pieces (sep : Char) : Text → List Text
  | [] => [[]]
  | c :: r =>
    if c == sep then [] :: pieces sep r
    else
      match pieces sep r with
      | p :: ps => (c :: p) :: ps
      | [] => [[c]]

/-- Whether `part` occurs somewhere in the text. -/
def hasPart (part : Text) : Text → Bool
  | [] => part.isEmpty
  | c :: r => part.isPrefixOf (c :: r) || hasPart part r

end Text

end Excerpt
