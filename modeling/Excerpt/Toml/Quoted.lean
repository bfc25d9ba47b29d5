import Excerpt.Toml.Scalar

/-!
Quoted text in configuration files. Each reader gives the text and what follows it.
-/

namespace Excerpt.Toml

/-- Control characters that quoted text may not hold. -/
def isRefused (several : Bool) (c : Char) : Bool :=
  (c.toNat < 0x20 || c.toNat == 0x7F) && c != '\t' && !(several && c == '\n')

def hexChar (width : Nat) (t : Text) : Except Fault (Char × Text) :=
  let ds := t.take width
  let n := valueIn 16 ds
  if ds.length == width && ds.all isHex && (n < 0xD800 || (0xE000 ≤ n && n ≤ 0x10FFFF)) then
    .ok (Char.ofNat n, t.drop width)
  else .error .invalid

def shortEscape? : Char → Option Char
  | 'b' => some '\x08'
  | 't' => some '\t'
  | 'n' => some '\n'
  | 'f' => some '\x0c'
  | 'r' => some '\r'
  | '"' => some '"'
  | '\\' => some '\\'
  | _ => none

def isGap (c : Char) : Bool := c == ' ' || c == '\t'

def isGapOrFeed (c : Char) : Bool := isGap c || c == '\n'

/-- A backslash at the end of a line joins it to the next text. -/
def joinLines (t : Text) : Except Fault Text :=
  match t.dropWhile isGap with
  | [] => .ok []
  | '\n' :: r => .ok (r.dropWhile isGapOrFeed)
  | _ => .error .invalid

/-- What follows a backslash: the character it means, if any, and the rest. -/
def readEscape (several : Bool) (t : Text) : Except Fault (Text × Text) :=
  match t with
  | [] => .error .invalid
  | c :: r =>
    if several && isGapOrFeed c then do return ([], ← joinLines t)
    else if c == 'u' then do
      let (d, rest) ← hexChar 4 r
      return ([d], rest)
    else if c == 'U' then do
      let (d, rest) ← hexChar 8 r
      return ([d], rest)
    else
      match shortEscape? c with
      | some d => .ok ([d], r)
      | none => .error .invalid

/-- Text in double quotes, behind the opening ones. -/
def basicText (several : Bool) : Nat → Text → Except Fault (Text × Text)
  | 0, _ => .error .invalid
  | fuel + 1, t =>
    match t with
    | [] => .error .invalid
    | '"' :: r =>
      if !several then .ok ([], r)
      else
        match r with
        | '"' :: '"' :: r => .ok ([], r)
        | r => do
          let (s, rest) ← basicText several fuel r
          return ('"' :: s, rest)
    | '\\' :: r => do
      let (e, r) ← readEscape several r
      let (s, rest) ← basicText several fuel r
      return (e ++ s, rest)
    | c :: r =>
      if isRefused several c then .error .invalid
      else do
        let (s, rest) ← basicText several fuel r
        return (c :: s, rest)

/-- Text in single quotes on one line, behind the opening one. -/
def literalText : Text → Except Fault (Text × Text)
  | [] => .error .invalid
  | '\'' :: r => .ok ([], r)
  | c :: r =>
    if isRefused false c then .error .invalid
    else do
      let (s, rest) ← literalText r
      return (c :: s, rest)

/-- Text in three single quotes, behind the opening ones. -/
def longLiteral : Text → Except Fault (Text × Text)
  | [] => .error .invalid
  | '\'' :: '\'' :: '\'' :: r => .ok ([], r)
  | c :: r =>
    if isRefused true c then .error .invalid
    else do
      let (s, rest) ← longLiteral r
      return (c :: s, rest)

/-- Up to two more quotes behind the closing three belong to the text. -/
def closingQuotes (mark : Char) (s t : Text) : Text × Text :=
  match t with
  | c :: d :: r =>
    if c == mark then if d == mark then (s ++ [mark, mark], r) else (s ++ [mark], d :: r)
    else (s, t)
  | [c] => if c == mark then (s ++ [mark], []) else (s, t)
  | [] => (s, t)

def dropFeed : Text → Text
  | '\n' :: r => r
  | t => t

/-- A quoted value. -/
def quotedValue (t : Text) : Option (Except Fault (Text × Text)) :=
  match t with
  | '"' :: '"' :: '"' :: r =>
    some <| (basicText true (r.length + 1) (dropFeed r)).map fun (s, rest) =>
      closingQuotes '"' s rest
  | '"' :: r => some (basicText false (r.length + 1) r)
  | '\'' :: '\'' :: '\'' :: r =>
    some ((longLiteral (dropFeed r)).map fun (s, rest) => closingQuotes '\'' s rest)
  | '\'' :: r => some (literalText r)
  | _ => none

end Excerpt.Toml
