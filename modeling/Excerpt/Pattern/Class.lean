import Excerpt.Text.Blank
import Excerpt.Text.Digit
import Excerpt.Text.Letter
import Excerpt.Text.Case

/-!
Character classes of patterns. A pattern names characters by code point. Where case is ignored the
character in hand is compared in lower case.
-/

namespace Excerpt.Pattern

/-- What a pattern takes for granted at some place. -/
structure Mode where
  ignoreCase : Bool
  multiline : Bool
  dotAll : Bool
  ascii : Bool
  deriving DecidableEq, Repr

inductive Category where
  | digit
  | blank
  | word
  deriving DecidableEq, Repr

inductive Item where
  | code (n : Nat)
  | range (lo hi : Nat)
  | category (c : Category) (negated : Bool)
  deriving DecidableEq, Repr

def isAsciiWord (n : Nat) : Bool :=
  (0x30 ≤ n && n ≤ 0x39) || (0x41 ≤ n && n ≤ 0x5A) || n == 0x5F || (0x61 ≤ n && n ≤ 0x7A)

def Category.holds (ascii : Bool) (n : Nat) : Category → Bool
  | digit => if ascii then 0x30 ≤ n && n ≤ 0x39 else (Text.digitOfCode? n).isSome
  | blank => if ascii then n == 0x20 || (0x9 ≤ n && n ≤ 0xD) else Text.isBlankCode n
  | word => if ascii then isAsciiWord n else Text.isWordCode n

def lowerAscii (n : Nat) : Nat := if 0x41 ≤ n && n ≤ 0x5A then n + 32 else n

def lowerIn (ascii : Bool) (n : Nat) : Nat := if ascii then lowerAscii n else Text.lowerCode n

/-- The lower case codes that stand for `n`. -/
def foldings (ascii : Bool) (n : Nat) : List Nat :=
  if ascii then [lowerAscii n] else Text.caseFellows (Text.lowerCode n)

/-- The codes whose lower case is `n`. -/
def casings (ascii : Bool) (n : Nat) : List Nat :=
  if ascii then if 0x61 ≤ n && n ≤ 0x7A then [n, n - 32] else [n] else Text.casings n

def lastOfPlane : Nat := 0xFFFF

/-- Whether an item holds a code that is in lower case already. Codes beyond the first plane stand
for themselves; a range with such codes also holds what it holds in upper case. -/
def Item.holdsFolded (ascii : Bool) (n : Nat) : Item → Bool
  | code m => if m ≤ lastOfPlane then (foldings ascii m).contains n else m == n
  | range lo hi =>
    ((if ascii then [n] else Text.caseFellows n).any fun m =>
      (casings ascii m).any fun c => lo ≤ c && c ≤ hi && c ≤ lastOfPlane) ||
    (lastOfPlane < hi &&
      ((lo ≤ n && n ≤ hi) || (lo ≤ Text.upperCode n && Text.upperCode n ≤ hi)))
  | category c negated => c.holds ascii n != negated

def Item.holds (ascii : Bool) (n : Nat) : Item → Bool
  | code m => m == n
  | range lo hi => lo ≤ n && n ≤ hi
  | category c negated => c.holds ascii n != negated

/-- Whether two characters count as one, as in a repeated group. -/
def Mode.agree (mode : Mode) (m n : Nat) : Bool :=
  if mode.ignoreCase then lowerIn mode.ascii m == lowerIn mode.ascii n else m == n

end Excerpt.Pattern
