import Excerpt.Pattern.Class

/-!
Patterns as trees, and the widths of the texts that they match.
-/

namespace Excerpt.Pattern

inductive Anchor where
  | lineStart
  | textStart
  | lineEnd
  | textEnd
  | boundary
  | noBoundary
  deriving DecidableEq, Repr

inductive Greed where
  | greedy
  | lazy
  | possessive
  deriving DecidableEq, Repr

inductive Node where
  | code (n : Nat)
  | otherThan (n : Nat)
  | any
  | oneOf (negated : Bool) (items : List Item)
  | anchor (a : Anchor)
  | plain (body : List Node)
  | scoped (mode : Mode) (body : List Node)
  | capture (group : Nat) (body : List Node)
  | atomic (body : List Node)
  | choice (branches : List (List Node))
  | loop (greed : Greed) (min : Nat) (max : Option Nat) (body : Node)
  | look (behind negated : Bool) (body : List Node)
  | backref (group : Nat)
  | conditional (group : Nat) (yes : List Node) (no : Option (List Node))

/-- Where a choice starts with the same item in every branch, the item may stand before it. -/
def Node.sharedWith : Node → Node → Bool
  | .code m, .code n => m == n
  | .otherThan m, .otherThan n => m == n
  | .any, .any => true
  | .oneOf b xs, .oneOf c ys => b == c && xs == ys
  | .anchor a, .anchor b => a == b
  | .backref m, .backref n => m == n
  | _, _ => false

def Node.isLoop : Node → Bool
  | .loop .. => true
  | _ => false

def Node.isAnchor : Node → Bool
  | .anchor _ => true
  | _ => false

/-- Groups that only hold their items together dissolve in the sequence that they are part of. -/
def dissolve (nodes : List Node) : List Node :=
  nodes.flatMap fun
    | .plain body => body
    | n => [n]

/-- The first items that all branches share, and what is left of the branches. -/
def sharedItems : Nat → List (List Node) → List Node × List (List Node)
  | 0, branches => ([], branches)
  | n + 1, branches =>
    match branches with
    | (x :: _) :: rest =>
      if rest.all fun b => b.head?.any x.sharedWith then
        let (shared, left) := sharedItems n (branches.map List.tail)
        (x :: shared, left)
      else ([], branches)
    | _ => ([], branches)

/-- The items of a class that a single node amounts to. -/
def classItems? : List Node → Option (List Item)
  | [.code n] => some [.code n]
  | [.oneOf false items] => some items
  | _ => none

/-- A choice; between single characters it is a class. -/
def choose (branches : List (List Node)) : List Node :=
  match branches with
  | [b] => b
  | _ =>
    let (shared, left) := sharedItems ((branches.map List.length).foldl Nat.max 0) branches
    match left.mapM classItems? with
    | some items => shared ++ [.oneOf false items.flatten.eraseDups]
    | none => shared ++ [.choice left]

/-- The least and the greatest number of characters. -/
structure Width where
  least : Nat
  most : Nat
  deriving DecidableEq, Repr

/-- No count of rounds reaches this, nor does a least number of characters. -/
def countLimit : Nat := 4294967295

namespace Width

def add (v w : Width) : Width := ⟨v.least + w.least, v.most + w.most⟩

/-- The least number stays below the limit, the greatest one may reach it. -/
def capped (w : Width) : Width := ⟨min w.least (countLimit - 1), min w.most countLimit⟩

def either (v w : Width) : Width := ⟨min v.least w.least, max v.most w.most⟩

/-- A loop without bound counts as one of as many rounds as the limit. -/
def times (w : Width) (least : Nat) (most : Option Nat) : Width :=
  ⟨w.least * least, w.most * most.getD countLimit⟩

end Width

/-- The widths of the groups that are complete. -/
abbrev GroupWidths := List (Nat × Width)

mutual

def Node.width (groups : GroupWidths) : Node → Width
  | .code _ | .otherThan _ | .any | .oneOf .. => ⟨1, 1⟩
  | .anchor _ | .look .. => ⟨0, 0⟩
  | .plain b | .scoped _ b | .capture _ b | .atomic b => widthOfAll groups b
  | .choice bs => widthOfAny groups bs
  | .loop _ least most b => (b.width groups).times least most
  | .backref g => (groups.lookup g).getD ⟨0, 0⟩
  | .conditional _ yes none => ⟨0, (widthOfAll groups yes).most⟩
  | .conditional _ yes (some no) => (widthOfAll groups yes).either (widthOfAll groups no)

def widthOfAll (groups : GroupWidths) : List Node → Width
  | [] => ⟨0, 0⟩
  | n :: ns => ((n.width groups).add (widthOfAll groups ns)).capped

def widthOfAny (groups : GroupWidths) : List (List Node) → Width
  | [] => ⟨countLimit - 1, 0⟩
  | b :: bs => (widthOfAll groups b).either (widthOfAny groups bs)

end

end Excerpt.Pattern
