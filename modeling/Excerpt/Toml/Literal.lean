import Excerpt.Toml.Quoted
import Excerpt.Toml.Table

/-!
Keys and values of configuration files, arrays and inline tables included. Each reader gives what
it read and the rest of the text.
-/

namespace Excerpt.Toml

abbrev Path := List Text

def isKeyChar (c : Char) : Bool :=
  isDec c || ('a' ≤ c && c ≤ 'z') || ('A' ≤ c && c ≤ 'Z') || c == '-' || c == '_'

def isKeyStart (c : Char) : Bool := isKeyChar c || c == '"' || c == '\''

def dropGap (t : Text) : Text := t.dropWhile isGap

def expect (word : List Char) (t : Text) : Except Fault Text :=
  if word.isPrefixOf t then .ok (t.drop word.length) else .error .invalid

/-- The rest behind a comment, if one starts here. -/
def skipComment (t : Text) : Except Fault Text :=
  match t with
  | '#' :: r =>
    if (r.takeWhile (· != '\n')).any (isRefused false) then .error .invalid
    else .ok (r.dropWhile (· != '\n'))
  | t => .ok t

/-- Blanks, line ends and comments, as they may stand inside an array. -/
def skipFiller : Nat → Text → Except Fault Text
  | 0, t => .ok t
  | fuel + 1, t =>
    match t.dropWhile isGapOrFeed with
    | '#' :: r => do skipFiller fuel (← skipComment ('#' :: r))
    | r => .ok r

def filler (t : Text) : Except Fault Text := skipFiller (t.length + 1) t

/-- One part of a key, bare or quoted. -/
def keyPart (t : Text) : Except Fault (Text × Text) :=
  match t with
  | '\'' :: r => literalText r
  | '"' :: r => basicText false (r.length + 1) r
  | t =>
    match t.takeWhile isKeyChar with
    | [] => .error .invalid
    | word => .ok (word, t.dropWhile isKeyChar)

/-- Further parts of a key, each behind a point. -/
def keyParts : Nat → Text → Except Fault (Path × Text)
  | 0, t => .ok ([], t)
  | fuel + 1, t =>
    match t with
    | '.' :: r => do
      let (part, rest) ← keyPart (dropGap r)
      let (parts, rest) ← keyParts fuel (dropGap rest)
      return (part :: parts, rest)
    | t => .ok ([], t)

/-- A key: the tables that lead to it and its own name. -/
structure Key where
  parent : Path
  name : Text

def Key.path (k : Key) : Path := k.parent ++ [k.name]

def Key.ofParts (first : Text) (others : Path) : Key :=
  match others.getLast? with
  | none => ⟨[], first⟩
  | some last => ⟨first :: others.dropLast, last⟩

def key (t : Text) : Except Fault (Key × Text) := do
  let (first, rest) ← keyPart t
  let (others, rest) ← keyParts rest.length (dropGap rest)
  return (Key.ofParts first others, rest)

/-- Whether a path leads into one of the closed tables and arrays. -/
def isClosed (closed : List Path) (path : Path) : Bool := closed.any (·.isPrefixOf path)

mutual

/-- A value. The first argument bounds the number of steps. -/
def value : Nat → Text → Except Fault (Value × Text)
  | 0, _ => .error .invalid
  | fuel + 1, t =>
    match quotedValue t with
    | some r => r.map fun (s, rest) => (.text s, rest)
    | none =>
      match t with
      | 't' :: 'r' :: 'u' :: 'e' :: r => .ok (.flag true, r)
      | 'f' :: 'a' :: 'l' :: 's' :: 'e' :: r => .ok (.flag false, r)
      | '[' :: r => (elements fuel r).map fun (xs, rest) => (.array xs, rest)
      | '{' :: r =>
        match dropGap r with
        | '}' :: rest => .ok (.table [], rest)
        | r => (entries fuel [] [] r).map fun (entries, rest) => (.table entries, rest)
      | t => scalar t

/-- The elements of an array up to its closing bracket. -/
def elements : Nat → Text → Except Fault (List Value × Text)
  | 0, _ => .error .invalid
  | fuel + 1, t => do
    match ← filler t with
    | ']' :: rest => return ([], rest)
    | t =>
      let (x, rest) ← value fuel t
      match ← filler rest with
      | ']' :: rest => return ([x], rest)
      | ',' :: rest =>
        let (xs, rest) ← elements fuel rest
        return (x :: xs, rest)
      | _ => .error .invalid

/-- The entries of an inline table up to its closing brace, added to those before. -/
def entries : Nat → List Path → Table → Text → Except Fault (Table × Text)
  | 0, _, _, _ => .error .invalid
  | fuel + 1, closed, table, t => do
    let (k, rest) ← key t
    let rest ← expect ['='] rest
    let (v, rest) ← value fuel (dropGap rest)
    if isClosed closed k.path then .error .invalid
    else
      match table.enterAt? false k.parent k.name v with
      | none => .error .invalid
      | some table =>
        match dropGap rest with
        | '}' :: rest => return (table, rest)
        | ',' :: rest =>
          entries fuel (if v.isCompound then k.path :: closed else closed) table
            (dropGap rest)
        | _ => .error .invalid

end

/-- A key with its value. -/
def entry (t : Text) : Except Fault ((Key × Value) × Text) := do
  let (k, rest) ← key t
  let rest ← expect ['='] rest
  let (v, rest) ← value (2 * rest.length + 2) (dropGap rest)
  return ((k, v), rest)

end Excerpt.Toml
