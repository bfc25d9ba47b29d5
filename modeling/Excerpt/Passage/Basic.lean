import Excerpt.Markdown.Block

/-!
Passages: tokens with their place in a document. A section is a passage with the passages inside it.
-/

namespace Excerpt

structure Passage where
  token : Token
  start : Nat
  stop : Nat
  inner : Option (List Passage)

namespace Passage

/-- A token that starts at an offset. -/
def ofToken (start : Nat) (t : Token) : Passage := ⟨t, start, start + t.raw.length, none⟩

/-- Tokens one after the other, from an offset on. -/
def consecutive (start : Nat) : List Token → List Passage
  | [] => []
  | t :: ts => Passage.ofToken start t :: consecutive (start + t.raw.length) ts

/-- Every block of a document. -/
def index (source : Text) : List Passage := consecutive 0 (Token.ofText source)

/-- The part of a document that a passage covers. -/
def text (source : Text) (p : Passage) : Text := (source.take p.stop).drop p.start

/-- Sections as their headings with what they hold, the rest as it is. -/
def expand (ps : List Passage) : List Passage :=
  ps.flatMap fun p =>
    match p.inner with
    | none => [p]
    | some inner => Passage.ofToken p.start p.token :: inner

end Passage

end Excerpt
