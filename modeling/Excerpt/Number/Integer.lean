import Excerpt.Text.Blank
import Excerpt.Text.Digit

/-!
Integers in decimal notation, with the digits of any script. A numeral may have at most 4300 digits.
-/

namespace Excerpt

structure TooManyDigits where
  count : Nat
  deriving DecidableEq, Repr

def TooManyDigits.message (e : TooManyDigits) : String :=
  s!"Exceeds the limit (4300 digits) for integer string conversion: value has {e.count} digits; " ++
    "use sys.set_int_max_str_digits() to increase the limit"

namespace Numeral

def digitLimit : Nat := 4300

def valueOf (digits : Text) : Nat :=
  digits.foldl (fun n c => 10 * n + (Text.digit? c).getD 0) 0

def natOf (digits : Text) : Except TooManyDigits Nat :=
  if digits.length ≤ digitLimit then .ok (valueOf digits) else .error ⟨digits.length⟩

/-- A sign, if there is one: whether it is a minus, and what follows. -/
def readSign : Text → Bool × Text
  | '+' :: r => (false, r)
  | '-' :: r => (true, r)
  | t => (false, t)

def signed (negative : Bool) (n : Nat) : Int := if negative then -n else n

/-- The value of a sign and digits. -/
def intOf (t : Text) : Except TooManyDigits Int :=
  match natOf (readSign t).2 with
  | .ok n => .ok (signed (readSign t).1 n)
  | .error e => .error e

/-- Digits in groups that single underscores part; `after` says whether a digit came before. -/
def areGroups (after : Bool) : Text → Bool
  | [] => after
  | c :: r => if c == '_' then after && areGroups false r else Text.isDigit c && areGroups true r

/-- Blanks around a numeral. The separators of ASCII are not among them. -/
def isMargin (c : Char) : Bool := Text.isBlank c && !(0x1C ≤ c.toNat && c.toNat ≤ 0x1F)

/-- Reads a whole text as an integer. -/
def read? (t : Text) : Option Int :=
  let (negative, r) := readSign (Text.dropEndWhile isMargin (t.dropWhile isMargin))
  if areGroups false r then
    match natOf (r.filter (· != '_')) with
    | .ok n => some (signed negative n)
    | .error _ => none
  else none

end Numeral

end Excerpt
