import Excerpt.Text.Basic

/-!
Series of names. Characters in a row often have names that start alike.
-/

namespace Excerpt.Text.Name

/-- What is left of a text behind a start that it may have. -/
def after? (start : String) (t : Text) : Option Text :=
  if start.toList.isPrefixOf t then some (t.drop start.length) else none

/-- Characters in a row whose names have a stem in common. The endings are parted by bars; blanks
before one do not count. -/
structure Series where
  first : Nat
  stem : String
  endings : String
  deriving Repr

def Series.code? (s : Series) (name : Text) : Option Nat := do
  let ending ← after? s.stem name
  let i ← (pieces '|' s.endings.toList).findIdx? fun e => e.dropWhile Char.isWhitespace == ending
  return s.first + i

/-- Characters in a row whose names end in the numbers from `low` to `high`, each with at least
`width` digits. -/
structure Numbering where
  first : Nat
  stem : String
  low : Nat
  high : Nat
  width : Nat
  deriving Repr

def Numbering.code? (s : Numbering) (name : Text) : Option Nat := do
  let ending ← after? s.stem name
  let i ← (List.range (s.high + 1 - s.low)).find? fun i =>
    (Nat.toDigits 10 (s.low + i)).leftpad s.width '0' == ending
  return s.first + i

/-- Characters whose names end in their own code, in four or five hexadecimal digits. If `padded`,
the first of five digits may be zero. -/
structure Coding where
  stem : String
  padded : Bool
  codes : Intervals
  deriving Repr

def hexDigit? (c : Char) : Option Nat :=
  if c.isDigit then some (c.toNat - 0x30)
  else if 'A' ≤ c && c ≤ 'F' then some (c.toNat - 0x37)
  else none

def hexValue? (t : Text) : Option Nat :=
  if t.length = 4 ∨ t.length = 5 then
    (t.mapM hexDigit?).map fun ds => ds.foldl (fun n d => 16 * n + d) 0
  else none

def Coding.code? (s : Coding) (name : Text) : Option Nat := do
  let digits ← after? s.stem name
  let n ← hexValue? digits
  if within s.codes n && (s.padded || digits.head? != some '0') then some n else none

end Excerpt.Text.Name
