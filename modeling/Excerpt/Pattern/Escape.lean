import Excerpt.Pattern.Reader
import Excerpt.Text.Name

/-!
Escapes, and the classes in brackets. An escape stands for a character, for a class of characters,
for an anchor or for what a group held.
-/

namespace Excerpt.Pattern

def isOctal (c : Char) : Bool := '0' ≤ c && c ≤ '7'

def hexValue? (c : Char) : Option Nat :=
  if c.isDigit then some (c.toNat - 0x30)
  else if 'a' ≤ c && c ≤ 'f' then some (c.toNat - 0x57)
  else if 'A' ≤ c && c ≤ 'F' then some (c.toNat - 0x37)
  else none

def isHex (c : Char) : Bool := (hexValue? c).isSome

def valueIn (base : Nat) (t : Text) : Nat :=
  t.foldl (fun n c => base * n + (hexValue? c).getD 0) 0

def category? : Char → Option Item
  | 'd' => some (.category .digit false)
  | 'D' => some (.category .digit true)
  | 's' => some (.category .blank false)
  | 'S' => some (.category .blank true)
  | 'w' => some (.category .word false)
  | 'W' => some (.category .word true)
  | _ => none

def control? : Char → Option Nat
  | 'a' => some 7
  | 'b' => some 8
  | 'f' => some 12
  | 'n' => some 10
  | 'r' => some 13
  | 't' => some 9
  | 'v' => some 11
  | '\\' => some 0x5C
  | _ => none

def anchor? : Char → Option Anchor
  | 'A' => some .textStart
  | 'b' => some .boundary
  | 'B' => some .noBoundary
  | 'Z' => some .textEnd
  | _ => none

namespace Reader

/-- A code point written with a fixed number of hexadecimal digits. -/
def hexEscape (c : Char) (width : Nat) : Reader Nat := do
  let digits ← take isHex width
  let escape := '\\' :: c :: digits
  if digits.length == width then
    let n := valueIn 16 digits
    if n ≤ 0x10FFFF then return n else fail (.badEscape escape) escape.length
  else fail (.incompleteEscape escape) escape.length

def namedEscape : Reader Nat := do
  unless ← accept '{' do fail .missingBrace 0
  let name ← readName '}' "character name"
  match Text.codeNamed? name with
  | some n => return n
  | none => fail (.unknownCharacter name) (name.length + 4)

/-- The escapes that mean the same inside and outside of classes. -/
def codeEscape? (c : Char) : Reader (Option Nat) := do
  match c with
  | 'x' => some <$> hexEscape c 2
  | 'u' => some <$> hexEscape c 4
  | 'U' => some <$> hexEscape c 8
  | 'N' => some <$> namedEscape
  | _ => return none

def octalOf (digits : Text) : Reader Nat := do
  let n := valueIn 8 digits
  if n ≤ 0o377 then return n
  else fail (.octalTooLarge ('\\' :: digits)) (digits.length + 1)

def literalEscape (c : Char) : Reader Nat := do
  if c.isAlphanum then fail (.badEscape ['\\', c]) 2 else return c.toNat

def classEscape (c : Char) : Reader Item := do
  match control? c, category? c with
  | some n, _ => return .code n
  | none, some item => return item
  | none, none =>
    match ← codeEscape? c with
    | some n => return .code n
    | none =>
      if isOctal c then return .code (← octalOf (c :: (← take isOctal 2)))
      else return .code (← literalEscape c)

def groupReference (digits : Text) : Reader Node := do
  let group := valueIn 10 digits
  if group < (← get).groups then
    unless ← isComplete group do fail .openGroup (digits.length + 1)
    checkLookbehind group
    return .backref group
  else fail (.noSuchGroup group) digits.length

/-- Digits behind a backslash: an octal code if there are three of them, else a group. -/
def digitEscape (c : Char) : Reader Node := do
  if c == '0' then return .code (valueIn 8 (c :: (← take isOctal 2)))
  else
    let second ← take Char.isDigit 1
    if isOctal c && second.all isOctal && !second.isEmpty then
      match ← take isOctal 1 with
      | [] => groupReference (c :: second)
      | third => return .code (← octalOf (c :: second ++ third))
    else groupReference (c :: second)

def escape (c : Char) : Reader Node := do
  match anchor? c, category? c, control? c with
  | some a, _, _ => return .anchor a
  | none, some item, _ => return .oneOf false [item]
  | none, none, some n => return .code n
  | none, none, none =>
    match ← codeEscape? c with
    | some n => return .code n
    | none =>
      if c.isDigit then digitEscape c else return .code (← literalEscape c)

/-- One end of a range, or a single member of a class. -/
def classMember (s : Text) : Reader Item := do
  match s with
  | ['\\', c] => classEscape c
  | c :: _ => return .code c.toNat
  | [] => return .code 0

/-- The members of a class that starts at `start`. A bracket right at the beginning is a member. -/
def classItems (start : Nat) : Nat → List Item → Reader (List Item)
  | 0, items => return items
  | fuel + 1, items => do
    let unterminated : Reader (List Item) := throw (.malformed .unterminatedClass start)
    match ← next with
    | none => unterminated
    | some s =>
      if s == [']'] && !items.isEmpty then return items
      else
        let first ← classMember s
        if ← accept '-' then
          match ← next with
          | none => unterminated
          | some t =>
            if t == [']'] then return items ++ [first, .code 0x2D]
            else
              let second ← classMember t
              let bad : Reader (List Item) := fail (.badRange s t) (s.length + 1 + t.length)
              match first, second with
              | .code lo, .code hi =>
                if hi < lo then bad else classItems start fuel (items ++ [.range lo hi])
              | _, _ => bad
        else classItems start fuel (items ++ [first])

def readClass : Reader Node := do
  let start := (← get).pos - 1
  let negated ← accept '^'
  let items ← classItems start ((← get).rest.length + 1) []
  match items.eraseDups, negated with
  | [.code n], false => return .code n
  | [.code n], true => return .otherThan n
  | items, _ => return .oneOf negated items

end Reader

end Excerpt.Pattern
