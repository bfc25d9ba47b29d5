import Excerpt.Pattern.Reader

/-!
How often an item repeats, and in which order the numbers of rounds are tried.
-/

namespace Excerpt.Pattern

namespace Reader

def repetition (digits : Text) : Reader (Option Nat) := do
  if digits.isEmpty then return none
  match Numeral.natOf digits with
  | .error e => throw (.tooManyDigits e)
  | .ok n => if countLimit ≤ n then throw .repetitionTooLarge else return some n

/-- The bounds in braces, if that is what the braces hold. -/
def bounds? : Reader (Option (Text × Text)) := do
  let fuel := (← get).rest.length
  let least ← take Char.isDigit fuel
  let most ← if ← accept ',' then take Char.isDigit fuel else pure least
  return if ← accept '}' then some (least, most) else none

/-- How often the item before `op` repeats; braces without bounds stand for themselves. -/
def readBounds (op : Char) : Reader (Option (Nat × Option Nat)) := do
  match op with
  | '?' => return some (0, some 1)
  | '*' => return some (0, none)
  | '+' => return some (1, none)
  | _ =>
    if (← peek) == some ['}'] then return none
    let before ← get
    match ← bounds? with
    | none =>
      set before
      return none
    | some (least, most) =>
      let lo := (← repetition least).getD 0
      match ← repetition most with
      | none => return some (lo, none)
      | some hi =>
        if hi < lo then throw (.malformed .repeatOrder before.pos) else return some (lo, some hi)

def readGreed : Reader Greed := do
  if ← accept '?' then return .lazy
  else if ← accept '+' then return .possessive
  else return .greedy

end Reader

end Excerpt.Pattern
