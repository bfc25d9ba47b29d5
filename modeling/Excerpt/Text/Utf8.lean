import Excerpt.Text.Basic

/-!
Text as bytes in UTF-8. Decoding refuses bytes that no text has, and says where and why.
-/

namespace Excerpt

inductive Utf8Cause where
  | startByte
  | continuation
  | endOfData
  deriving DecidableEq, Repr

/-- The first bytes that do not decode: their values, from an offset on. -/
structure Utf8Fault where
  bytes : List UInt8
  offset : Nat
  cause : Utf8Cause
  deriving DecidableEq, Repr

namespace Utf8Fault

def hexByte (b : UInt8) : String :=
  let ds := Nat.toDigits 16 b.toNat
  String.ofList (if ds.length < 2 then '0' :: ds else ds)

def reason : Utf8Cause → String
  | .startByte => "invalid start byte"
  | .continuation => "invalid continuation byte"
  | .endOfData => "unexpected end of data"

def message (f : Utf8Fault) : String :=
  let place := match f.bytes with
    | [b] => s!"byte 0x{hexByte b} in position {f.offset}"
    | bs => s!"bytes in position {f.offset}-{f.offset + bs.length - 1}"
  s!"'utf-8' codec can't decode {place}: {reason f.cause}"

end Utf8Fault

namespace Utf8

/-- For a byte that starts a longer character: how many bytes follow, and the bounds of the first
of them. -/
def follow? (b : UInt8) : Option (Nat × UInt8 × UInt8) :=
  if b < 0xC2 then none
  else if b < 0xE0 then some (1, 0x80, 0xBF)
  else if b == 0xE0 then some (2, 0xA0, 0xBF)
  else if b == 0xED then some (2, 0x80, 0x9F)
  else if b < 0xF0 then some (2, 0x80, 0xBF)
  else if b == 0xF0 then some (3, 0x90, 0xBF)
  else if b < 0xF4 then some (3, 0x80, 0xBF)
  else if b == 0xF4 then some (3, 0x80, 0x8F)
  else none

/-- The bytes that continue a character: as many as asked for, or the cause why there are fewer. -/
def tail : Nat → UInt8 → UInt8 → List UInt8 → List UInt8 × Option Utf8Cause
  | 0, _, _, _ => ([], none)
  | _ + 1, _, _, [] => ([], some .endOfData)
  | n + 1, lo, hi, b :: bs =>
    if lo ≤ b && b ≤ hi then
      let (more, cause) := tail n 0x80 0xBF bs
      (b :: more, cause)
    else ([], some .continuation)

/-- The bits that the first of several bytes gives. -/
def leadBits (b : UInt8) (following : Nat) : Nat := b.toNat % Nat.pow 2 (6 - following)

def charOf (lead : UInt8) (more : List UInt8) : Char :=
  Char.ofNat (more.foldl (fun n b => n * 64 + b.toNat % 64) (leadBits lead more.length))

/-- The character that a byte starts, and how many of the bytes after it belong to it. -/
def step (offset : Nat) (b : UInt8) (bs : List UInt8) : Except Utf8Fault (Char × Nat) :=
  if b < 0x80 then .ok (Char.ofNat b.toNat, 0)
  else
    match follow? b with
    | none => .error ⟨[b], offset, .startByte⟩
    | some (n, lo, hi) =>
      match tail n lo hi bs with
      | (more, none) => .ok (charOf b more, more.length)
      | (more, some cause) => .error ⟨b :: more, offset, cause⟩

/-- The text of bytes that start at an offset. -/
def decodeFrom (offset : Nat) (bytes : List UInt8) : Except Utf8Fault Text :=
  match bytes with
  | [] => .ok []
  | b :: bs =>
    match step offset b bs with
    | .error f => .error f
    | .ok (c, n) => (decodeFrom (offset + n + 1) (bs.drop n)).map (c :: ·)
termination_by bytes.length
decreasing_by simp only [List.length_drop, List.length_cons]; omega

def decode (bytes : List UInt8) : Except Utf8Fault Text := decodeFrom 0 bytes

def encode (t : Text) : List UInt8 := t.flatMap String.utf8EncodeChar

end Utf8

end Excerpt
