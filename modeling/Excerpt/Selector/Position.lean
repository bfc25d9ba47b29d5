import Excerpt.Number.Integer

/-!
Positions in a list: an index or a slice, counted from the end where negative.
-/

namespace Excerpt

inductive Position where
  | index (i : Int)
  | slice (start stop : Option Int)
  deriving DecidableEq, Repr

namespace Position

/-- An offset from the start of a list of `n` elements, kept inside it. -/
def clamp (n : Nat) (i : Int) : Nat := if i < 0 then (n + i).toNat else min i.toNat n

def pick {α : Type} (xs : List α) : Position → List α
  | index i =>
    let j := if i < 0 then i + xs.length else i
    if 0 ≤ j then xs[j.toNat]?.toList else []
  | slice start stop =>
    let a := (start.map (clamp xs.length)).getD 0
    let b := (stop.map (clamp xs.length)).getD xs.length
    (xs.take b).drop a

def pick? {α : Type} (p : Option Position) (xs : List α) : List α :=
  match p with
  | some p => p.pick xs
  | none => xs

def isNumeral (t : Text) : Bool :=
  let digits := (Numeral.readSign t).2
  !digits.isEmpty && digits.all Text.isDigit

def bound? (t : Text) : Except TooManyDigits (Option Int) :=
  if t.isEmpty then .ok none else (Numeral.intOf t).map some

/-- Reads what brackets hold. Anything but an index or a slice is no position. -/
def read? (body : Text) : Except TooManyDigits (Option Position) :=
  let t := if body.getLast? == some '\n' then body.dropLast else body
  let first := t.takeWhile (· != ':')
  if isNumeral t then (Numeral.intOf t).map fun i => some (index i)
  else
    match t.dropWhile (· != ':') with
    | ':' :: last =>
      if (first.isEmpty || isNumeral first) && (last.isEmpty || isNumeral last) then do
        let start ← bound? first
        let stop ← bound? last
        return some (slice start stop)
      else .ok none
    | _ => .ok none

end Position

end Excerpt
