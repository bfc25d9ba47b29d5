import Excerpt.Text.Basic

/-!
How alike two words are: the share of their characters that lie in common blocks. The longest
common block is taken first, then the parts on either side of it are compared.
-/

namespace Excerpt.Text

/-- How many characters two texts have in common at their start. -/
def commonStart : Text → Text → Nat
  | a :: r, b :: s => if a == b then commonStart r s + 1 else 0
  | _, _ => 0

/-- A block of `size` characters at offset `left` of one text and `right` of another. -/
structure Block where
  left : Nat
  right : Nat
  size : Nat
  deriving DecidableEq, Repr

def longer (best b : Block) : Block := if best.size < b.size then b else best

/-- The longest common block; of several the one that comes first in the left text, then in the
right one. -/
def longestBlock (a b : Text) : Block :=
  (List.range a.length).foldl (fun best i =>
    (List.range b.length).foldl (fun best j =>
      longer best ⟨i, j, commonStart (a.drop i) (b.drop j)⟩) best) ⟨0, 0, 0⟩

/-- How many characters lie in common blocks. The first argument bounds the depth of recursion. -/
def shared : Nat → Text → Text → Nat
  | 0, _, _ => 0
  | depth + 1, a, b =>
    let m := longestBlock a b
    if m.size == 0 then 0
    else
      shared depth (a.take m.left) (b.take m.right) + m.size +
        shared depth (a.drop (m.left + m.size)) (b.drop (m.right + m.size))

/-- Words are alike if their common blocks make up three fifths of both. -/
def isLike (word other : Text) : Bool :=
  3 * (word.length + other.length) ≤ 10 * shared (other.length + 1) other word

/-- Whether `a` is more like `word` than `b` is. Words that are equally alike go by their order. -/
def isLiker (word a b : Text) : Bool :=
  let x := shared (a.length + 1) a word * (word.length + b.length)
  let y := shared (b.length + 1) b word * (word.length + a.length)
  y < x || (x == y && String.ofList b ≤ String.ofList a)

/-- The three words most like a given one, in their order. -/
def similar (word : Text) (words : List Text) : List Text :=
  let best := ((words.filter (isLike word)).mergeSort (isLiker word)).take 3
  best.mergeSort fun a b => String.ofList a ≤ String.ofList b

end Excerpt.Text
