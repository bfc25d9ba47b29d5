import Excerpt.Text.Basic

/-!
Values of configuration files.
-/

namespace Excerpt

structure Date where
  year : Nat
  month : Nat
  day : Nat
  deriving DecidableEq, Repr

structure ClockTime where
  hour : Nat
  minute : Nat
  second : Nat
  micro : Nat
  deriving DecidableEq, Repr

/-- A date, a time of day, or both, then perhaps with an offset in minutes. -/
inductive Moment where
  | date (d : Date)
  | time (t : ClockTime)
  | both (d : Date) (t : ClockTime) (offset : Option Int)
  deriving DecidableEq, Repr

/-- A number with leading zeros. -/
def padded (width n : Nat) : Text :=
  let ds := Nat.toDigits 10 n
  List.replicate (width - ds.length) '0' ++ ds

namespace Date

def isLeap (year : Nat) : Bool := year % 4 == 0 && (year % 100 != 0 || year % 400 == 0)

def lengthOf (year month : Nat) : Nat :=
  if month == 2 then if isLeap year then 29 else 28
  else if month == 4 || month == 6 || month == 9 || month == 11 then 30 else 31

/-- Whether the calendar has the date; it starts with the year one. -/
def isReal (d : Date) : Bool :=
  1 ≤ d.year && 1 ≤ d.month && d.month ≤ 12 && 1 ≤ d.day && d.day ≤ lengthOf d.year d.month

def toText (d : Date) : Text := padded 4 d.year ++ '-' :: padded 2 d.month ++ '-' :: padded 2 d.day

end Date

def ClockTime.toText (t : ClockTime) : Text :=
  padded 2 t.hour ++ ':' :: padded 2 t.minute ++ ':' :: padded 2 t.second ++
    if t.micro == 0 then [] else '.' :: padded 6 t.micro

def offsetText (minutes : Int) : Text :=
  (if minutes < 0 then '-' else '+') ::
    padded 2 (minutes.natAbs / 60) ++ ':' :: padded 2 (minutes.natAbs % 60)

def Moment.toText : Moment → Text
  | date d => d.toText
  | time t => t.toText
  | both d t offset => d.toText ++ 'T' :: t.toText ++ (offset.map offsetText).getD []

inductive Value where
  | null
  | text (t : Text)
  | flag (b : Bool)
  | integer (n : Int)
  | float (x : Float)
  | moment (m : Moment)
  | array (xs : List Value)
  | table (entries : List (Text × Value))
  deriving Inhabited

/-- Whether a value holds further ones. -/
def Value.isCompound : Value → Bool
  | .array _ | .table _ => true
  | _ => false

/-- Values by key, each key once. -/
abbrev Table := List (Text × Value)

end Excerpt
