import Excerpt.Passage.Basic

/-!
List items as passages. Each item is looked for in the text of its list behind the item before it.
-/

namespace Excerpt

/-- How many characters stand before the first occurrence of `part`. -/
def Text.before? (part : Text) : Text → Option Nat
  | [] => if part.isEmpty then some 0 else none
  | c :: r => if part.isPrefixOf (c :: r) then some 0 else (before? part r).map (· + 1)

namespace Passage

/-- Places the items of a list whose text goes on with `rest` at offset `start`. -/
def placeItems (start : Nat) (rest : Text) : List Token → List Passage
  | [] => []
  | t :: ts =>
    match Text.before? t.raw rest with
    | none => placeItems start rest ts
    | some n =>
      Passage.ofToken (start + n) t ::
        placeItems (start + n + t.raw.length) (rest.drop (n + t.raw.length)) ts

def items (ps : List Passage) : List Passage :=
  ps.flatMap fun p => placeItems p.start p.token.raw p.token.items

end Passage

end Excerpt
