import Excerpt.Pattern.Syntax

/-!
Tests for one character, with the mode settled. Characters are compared in lower case only where
case is ignored and the pattern names a character that has case.
-/

namespace Excerpt.Pattern

inductive Test where
  | any
  | anyButFeed
  | code (n : Nat)
  | otherThan (n : Nat)
  /-- `n` is in lower case, and is the only letter that it stands for. -/
  | folded (negated ascii : Bool) (n : Nat)
  | within (negated ascii : Bool) (items : List Item)
  | foldedWithin (negated ascii : Bool) (items : List Item)
  deriving DecidableEq, Repr

namespace Test

def holds (n : Nat) : Test → Bool
  | any => true
  | anyButFeed => n != 10
  | code m => n == m
  | otherThan m => n != m
  | folded negated ascii m => (lowerIn ascii n == m) != negated
  | within negated ascii items => items.any (·.holds ascii n) != negated
  | foldedWithin negated ascii items =>
    items.any (·.holdsFolded ascii (lowerIn ascii n)) != negated

/-- The code that alone passes. -/
def code? : Test → Option Nat
  | code n => some n
  | _ => none

/-- Whether the test can be made without lower case on characters of one code or one class. -/
def isPlain : Test → Bool
  | code _ | within .. => true
  | _ => false

/-- Whether a stretch of characters is found by one search for each of them. -/
def isSearched : Test → Bool
  | foldedWithin .. => true
  | _ => false

end Test

namespace Mode

/-- Whether case makes a difference for a code. -/
def isCased (mode : Mode) (n : Nat) : Bool :=
  mode.ignoreCase && if mode.ascii then lowerAscii n != n || (0x61 ≤ n && n ≤ 0x7A)
    else Text.isCased n

/-- Whether case makes a difference for an item of a class. -/
def isCasedItem (mode : Mode) : Item → Bool
  | .code n => mode.isCased n
  | .range lo hi =>
    mode.ignoreCase && (lastOfPlane < hi ||
      if mode.ascii then (lo ≤ 0x5A && 0x41 ≤ hi) || (lo ≤ 0x7A && 0x61 ≤ hi)
      else Text.hasCased lo hi)
  | .category .. => false

/-- Whether an item is a code beyond the first plane. -/
def isBeyond : Item → Bool
  | .code n => lastOfPlane < n
  | _ => false

def codeTest (mode : Mode) (negated : Bool) (n : Nat) : Test :=
  if mode.isCased n then
    if (foldings mode.ascii n).length == 1 then .folded negated mode.ascii (lowerIn mode.ascii n)
    else .foldedWithin negated mode.ascii [.code n]
  else if negated then .otherThan n
  else .code n

def classTest (mode : Mode) (negated : Bool) (items : List Item) : Test :=
  if mode.ignoreCase && items.any fun i => mode.isCasedItem i || isBeyond i then
    .foldedWithin negated mode.ascii items
  else .within negated mode.ascii items

/-- The test that a node for one character amounts to. -/
def test? (mode : Mode) : Node → Option Test
  | .code n => some (mode.codeTest false n)
  | .otherThan n => some (mode.codeTest true n)
  | .any => some (if mode.dotAll then .any else .anyButFeed)
  | .oneOf negated items => some (mode.classTest negated items)
  | _ => none

end Mode

end Excerpt.Pattern
