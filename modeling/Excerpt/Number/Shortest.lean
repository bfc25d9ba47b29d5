/-!
The shortest decimal that names a floating-point number: of the decimals that round to it one with
the fewest digits, and of those the nearest.
-/

namespace Excerpt

/-- A positive number `digits · 10 ^ exponent`. -/
structure Decimal where
  digits : Nat
  exponent : Int
  deriving DecidableEq, Repr

namespace Decimal

/-- A positive rational number. -/
structure Ratio where
  num : Nat
  den : Nat

namespace Ratio

def times (r : Ratio) (base : Nat) (exponent : Int) : Ratio :=
  if 0 ≤ exponent then ⟨r.num * Nat.pow base exponent.toNat, r.den⟩
  else ⟨r.num, r.den * Nat.pow base (-exponent).toNat⟩

def less (r s : Ratio) : Bool := r.num * s.den < s.num * r.den

def lessEq (r s : Ratio) : Bool := r.num * s.den ≤ s.num * r.den

/-- How many digits stand before the decimal point; zero or less for a number below one. -/
def magnitude (r : Ratio) : Int :=
  if r.den ≤ r.num then (Nat.toDigits 10 (r.num / r.den)).length
  else 1 - ((Nat.toDigits 10 ((r.den - 1) / r.num)).length : Int)

end Ratio

/-- The numbers that round to a float, with or without the ends. -/
structure Interval where
  lo : Ratio
  hi : Ratio
  closed : Bool

def Interval.contains (i : Interval) (r : Ratio) : Bool :=
  if i.closed then i.lo.lessEq r && r.lessEq i.hi else i.lo.less r && r.less i.hi

/-- The better neighbour of `v` on the grid of step `10 ^ exponent`, if one is inside. -/
def neighbour? (v : Ratio) (i : Interval) (exponent : Int) : Option Decimal :=
  let scaled := v.times 10 (-exponent)
  let below := scaled.num / scaled.den
  let fits (n : Nat) : Bool := i.contains (Ratio.times ⟨n, 1⟩ 10 exponent)
  let twice := 2 * (scaled.num % scaled.den)
  match fits below && below != 0, fits (below + 1) with
  | true, true =>
    if twice < scaled.den || (twice == scaled.den && below % 2 == 0) then some ⟨below, exponent⟩
    else some ⟨below + 1, exponent⟩
  | true, false => some ⟨below, exponent⟩
  | false, true => some ⟨below + 1, exponent⟩
  | false, false => none

/-- Tries one digit, two digits and so on; seventeen are always enough. -/
def search (v : Ratio) (i : Interval) (magnitude : Int) : Nat → Nat → Option Decimal
  | 0, _ => none
  | tries + 1, count =>
    match neighbour? v i (magnitude - count) with
    | some d => some d
    | none => search v i magnitude tries (count + 1)

/-- The shortest decimal for the float `m · 2 ^ q`; `edge` says that the next float below is only
half as far away as the next one above. -/
def shortest (m : Nat) (q : Int) (edge : Bool) : Decimal :=
  let v := Ratio.times ⟨m, 1⟩ 2 q
  let hi := Ratio.times ⟨2 * m + 1, 1⟩ 2 (q - 1)
  let lo :=
    if edge then Ratio.times ⟨4 * m - 1, 1⟩ 2 (q - 2) else Ratio.times ⟨2 * m - 1, 1⟩ 2 (q - 1)
  let i : Interval := ⟨lo, hi, m % 2 == 0⟩
  (search v i v.magnitude 20 1).getD ⟨m, 0⟩

end Decimal

/-- A float has 52 bits behind its leading one. -/
def fractionUnit : Nat := 0x10000000000000

/-- How a float is written: without an exponent while its point is near the digits, and always with
a point or an exponent. -/
def floatText (x : Float) : String :=
  let bits := x.toBits.toNat
  let sign := if bits / 0x8000000000000000 == 1 then "-" else ""
  let field := bits / fractionUnit % 2048
  let fraction := bits % fractionUnit
  if field == 2047 then if fraction == 0 then sign ++ "inf" else "nan"
  else if field == 0 && fraction == 0 then sign ++ "0.0"
  else
    let m := if field == 0 then fraction else fraction + fractionUnit
    let q : Int := if field == 0 then -1074 else (field : Int) - 1075
    let d := Decimal.shortest m q (fraction == 0 && 1 < field)
    let ds := (Nat.toDigits 10 d.digits).reverse.dropWhile (· == '0') |>.reverse
    let point : Int := (Nat.toDigits 10 d.digits).length + d.exponent
    sign ++ String.ofList (place ds point)
where
  place (ds : List Char) (point : Int) : List Char :=
    if -4 < point && point ≤ 16 then
      if point ≤ 0 then ['0', '.'] ++ List.replicate (-point).toNat '0' ++ ds
      else
        let n := point.toNat
        if ds.length ≤ n then ds ++ List.replicate (n - ds.length) '0' ++ ['.', '0']
        else ds.take n ++ ['.'] ++ ds.drop n
    else
      let e := point - 1
      let mantissa := match ds with
        | [c] => [c]
        | c :: r => c :: '.' :: r
        | [] => []
      let digits := Nat.toDigits 10 e.natAbs
      let digits := if digits.length < 2 then '0' :: digits else digits
      mantissa ++ ['e', if e < 0 then '-' else '+'] ++ digits

end Excerpt
