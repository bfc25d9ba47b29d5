import Excerpt.Selection.Record
import Excerpt.Text.Quoted

/-!
Records in JSON notation: every item on a line of its own, indented by its depth.
-/

namespace Excerpt.Json

def escape (c : Char) : Text :=
  match c with
  | '"' => ['\\', '"']
  | '\\' => ['\\', '\\']
  | '\n' => ['\\', 'n']
  | '\r' => ['\\', 'r']
  | '\t' => ['\\', 't']
  | '\x08' => ['\\', 'b']
  | '\x0c' => ['\\', 'f']
  | c => if c.toNat < 0x20 then '\\' :: 'u' :: Text.hex 4 c.toNat else [c]

def string (t : Text) : Text := '"' :: t.flatMap escape ++ ['"']

def newLine (indent depth : Nat) : Text := '\n' :: List.replicate (indent * depth) ' '

/-- Items between brackets that stand at a depth. -/
def enclose (first last : Char) (indent depth : Nat) (items : List Text) : Text :=
  if items.isEmpty then [first, last]
  else
    let inner := newLine indent (depth + 1)
    first :: inner ++ Text.joinWith (',' :: inner) items ++ newLine indent depth ++ [last]

def record (indent depth : Nat) (r : Record) : Text :=
  enclose '\x7b' '\x7d' indent depth (r.map fun e => string e.1 ++ [':', ' '] ++ string e.2)

def records (indent depth : Nat) (rs : List Record) : Text :=
  enclose '[' ']' indent depth (rs.map (record indent (depth + 1)))

/-- Records in groups. -/
def groups (indent : Nat) (gs : List (List Record)) : Text :=
  enclose '[' ']' indent 0 (gs.map (records indent 1))

end Excerpt.Json
