import Excerpt.Number.Integer
import Excerpt.Toml.Value

/-!
Numbers, dates and times of configuration files. Each reader gives a value and the rest of the text.
-/

namespace Excerpt.Toml

/-- Why a configuration file is not read. -/
inductive Fault where
  | invalid
  | tooManyDigits (e : TooManyDigits)
  deriving DecidableEq, Repr

def isDec (c : Char) : Bool := '0' ≤ c && c ≤ '9'

def isOct (c : Char) : Bool := '0' ≤ c && c ≤ '7'

def isBin (c : Char) : Bool := c == '0' || c == '1'

def isHex (c : Char) : Bool := isDec c || ('a' ≤ c && c ≤ 'f') || ('A' ≤ c && c ≤ 'F')

def digitValue (c : Char) : Nat :=
  if isDec c then c.toNat - 0x30
  else if 'a' ≤ c && c ≤ 'f' then c.toNat - 0x57
  else c.toNat - 0x37

def valueIn (base : Nat) (digits : Text) : Nat :=
  digits.foldl (fun n c => base * n + digitValue c) 0

/-- Digits that single underscores may part; the rest starts where they end. -/
def moreDigits (p : Char → Bool) : Text → Text × Text
  | '_' :: c :: r =>
    if p c then (c :: (moreDigits p r).1, (moreDigits p r).2) else ([], '_' :: c :: r)
  | c :: r => if p c then (c :: (moreDigits p r).1, (moreDigits p r).2) else ([], c :: r)
  | [] => ([], [])

def someDigits? (p : Char → Bool) : Text → Option (Text × Text)
  | c :: r => if p c then some (c :: (moreDigits p r).1, (moreDigits p r).2) else none
  | [] => none

/-- The digits of a fraction behind a point. -/
def fraction : Text → Text × Text
  | '.' :: r => (someDigits? isDec r).getD ([], '.' :: r)
  | t => ([], t)

def exponent? (t : Text) : Option (Int × Text) :=
  match t with
  | c :: r =>
    if c == 'e' || c == 'E' then
      match someDigits? isDec (Numeral.readSign r).2 with
      | some (ds, rest) => some (Numeral.signed (Numeral.readSign r).1 (valueIn 10 ds), rest)
      | none => none
    else none
  | [] => none

/-- The float nearest to `digits · 10 ^ exponent`. Beyond the range of floats the exponent decides
alone. -/
def nearestFloat (negative : Bool) (digits : Nat) (exponent : Int) : Float :=
  let magnitude : Int := (Nat.toDigits 10 digits).length + exponent
  let x : Float :=
    if digits == 0 || magnitude < -400 then 0
    else if 400 < magnitude then 1 / 0
    else Float.ofScientific digits (exponent < 0) exponent.natAbs
  if negative then -x else x

def radix? : Text → Option (Nat × Text × Text)
  | '0' :: 'x' :: r => (someDigits? isHex r).map fun (ds, rest) => (16, ds, rest)
  | '0' :: 'b' :: r => (someDigits? isBin r).map fun (ds, rest) => (2, ds, rest)
  | '0' :: 'o' :: r => (someDigits? isOct r).map fun (ds, rest) => (8, ds, rest)
  | _ => none

def whole? (t : Text) : Option (Text × Text) :=
  match t with
  | '0' :: r => some (['0'], r)
  | t => someDigits? isDec t

def number? (t : Text) : Option (Except Fault (Value × Text)) :=
  match radix? t with
  | some (base, ds, rest) => some (.ok (.integer (valueIn base ds), rest))
  | none =>
    let (negative, unsigned) := Numeral.readSign t
    match whole? unsigned with
    | none => none
    | some (ds, r) =>
      let (fs, afterFraction) := fraction r
      match fs, exponent? afterFraction with
      | [], none =>
        match Numeral.natOf ds with
        | .ok n => some (.ok (.integer (Numeral.signed negative n), r))
        | .error e => some (.error (.tooManyDigits e))
      | fs, e =>
        let (shift, rest) := e.getD (0, afterFraction)
        some (.ok
          (.float (nearestFloat negative (valueIn 10 (ds ++ fs)) (shift - fs.length)), rest))

/-- A number of a fixed count of digits, inside bounds. -/
def fixed? (count lo hi : Nat) (t : Text) : Option (Nat × Text) :=
  let ds := t.take count
  if ds.length == count && ds.all isDec && lo ≤ valueIn 10 ds && valueIn 10 ds ≤ hi then
    some (valueIn 10 ds, t.drop count)
  else none

def pass? (c : Char) : Text → Option Text
  | d :: r => if d == c then some r else none
  | [] => none

def date? (t : Text) : Option (Date × Text) := do
  let (year, t) ← fixed? 4 0 9999 t
  let (month, t) ← fixed? 2 1 12 (← pass? '-' t)
  let (day, t) ← fixed? 2 1 31 (← pass? '-' t)
  return (⟨year, month, day⟩, t)

/-- Microseconds: six digits count, further ones are dropped. -/
def micros (t : Text) : Nat × Text :=
  match t with
  | '.' :: r =>
    match r.takeWhile isDec with
    | [] => (0, t)
    | ds =>
      (valueIn 10 (ds.take 6 ++ List.replicate (6 - ds.length) '0'), r.dropWhile isDec)
  | _ => (0, t)

def time? (t : Text) : Option (ClockTime × Text) := do
  let (hour, t) ← fixed? 2 0 23 t
  let (minute, t) ← fixed? 2 0 59 (← pass? ':' t)
  let (second, t) ← fixed? 2 0 59 (← pass? ':' t)
  return (⟨hour, minute, second, (micros t).1⟩, (micros t).2)

def signedOffset? (sign : Int) (t : Text) : Option (Int × Text) := do
  let (hour, t) ← fixed? 2 0 23 t
  let (minute, t) ← fixed? 2 0 59 (← pass? ':' t)
  return (sign * (60 * hour + minute : Nat), t)

def offset (t : Text) : Option Int × Text :=
  let found := match t with
    | 'Z' :: r | 'z' :: r => some (0, r)
    | '+' :: r => signedOffset? 1 r
    | '-' :: r => signedOffset? (-1) r
    | _ => none
  match found with
  | some (minutes, r) => (some minutes, r)
  | none => (none, t)

/-- A date, with a time behind it if one follows. -/
def dated (d : Date) (t : Text) : Moment × Text :=
  let time := match t with
    | c :: r => if c == 'T' || c == 't' || c == ' ' then time? r else none
    | [] => none
  match time with
  | some (clock, r) => (.both d clock (offset r).1, (offset r).2)
  | none => (.date d, t)

def moment? (t : Text) : Option (Except Fault (Value × Text)) :=
  match date? t with
  | some (d, r) =>
    some (if d.isReal then .ok (.moment (dated d r).1, (dated d r).2) else .error .invalid)
  | none => (time? t).map fun (clock, r) => .ok (.moment (.time clock), r)

/-- A value that starts with one of these words is that value. -/
def specials : List (String × Value) := [
  ("inf", .float (1 / 0)), ("nan", .float (0 / 0)),
  ("+inf", .float (1 / 0)), ("+nan", .float (0 / 0)),
  ("-inf", .float (-1 / 0)), ("-nan", .float (0 / 0))]

def special? (t : Text) : Option (Value × Text) :=
  match specials.find? fun s => s.1.toList.isPrefixOf t with
  | some (word, v) => some (v, t.drop word.length)
  | none => none

/-- A number, a date or a time. -/
def scalar (t : Text) : Except Fault (Value × Text) :=
  match moment? t with
  | some r => r
  | none =>
    match number? t with
    | some r => r
    | none =>
      match special? t with
      | some r => .ok r
      | none => .error .invalid

end Excerpt.Toml
