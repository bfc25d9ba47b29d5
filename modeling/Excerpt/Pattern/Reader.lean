import Excerpt.Pattern.Fault
import Excerpt.Pattern.Flags
import Excerpt.Text.Identifier

/-!
Reading patterns. A pattern is a sequence of symbols, each a character or a backslash with the
character behind it; the reader keeps the next symbol in view.
-/

namespace Excerpt.Pattern

/-- The symbols of a pattern. A lone backslash at the end is a symbol of one character. -/
def symbols : Text → List Text
  | '\\' :: c :: r => ['\\', c] :: symbols r
  | c :: r => [c] :: symbols r
  | [] => []

structure ReaderState where
  rest : List Text
  pos : Nat
  flags : Flags
  groups : Nat
  names : List (Text × Nat)
  widths : GroupWidths
  lookbehind : Option Nat
  references : List (Nat × Nat)

abbrev Reader := StateT ReaderState (Except Fault)

namespace Reader

def fail {α : Type} (problem : Problem) (back : Nat) : Reader α := do
  throw (.malformed problem ((← get).pos - back))

def peek : Reader (Option Text) := return (← get).rest.head?

/-- A backslash with nothing behind it is refused as soon as it comes into view. -/
def checkView : Reader Unit := do
  if (← peek) == some ['\\'] then fail .danglingBackslash 0

def next : Reader (Option Text) := do
  match (← get).rest with
  | [] => return none
  | s :: r =>
    modify fun st => { st with rest := r, pos := st.pos + s.length }
    checkView
    return some s

def accept (c : Char) : Reader Bool := do
  if (← peek) == some [c] then
    discard next
    return true
  else return false

/-- At most `n` characters of a kind. -/
def take (p : Char → Bool) : Nat → Reader Text
  | 0 => return []
  | n + 1 => do
    match ← peek with
    | some [c] =>
      if p c then
        discard next
        return c :: (← take p n)
      else return []
    | _ => return []

/-- A name up to its end mark. -/
def nameUntil (stop : Char) (what : String) : Nat → Text → Reader Text
  | 0, name => return name
  | fuel + 1, name => do
    match ← next with
    | none =>
      if name.isEmpty then fail (.missing what) 0 else fail (.unterminatedName stop) name.length
    | some s =>
      if s == [stop] then
        if name.isEmpty then fail (.missing what) 1 else return name
      else nameUntil stop what fuel (name ++ s)

def readName (stop : Char) (what : String) : Reader Text := do
  nameUntil stop what ((← get).rest.length + 1) []

def checkName (name : Text) : Reader Unit := do
  unless Text.isIdentifier name do fail (.badGroupName name) (name.length + 1)

def isComplete (group : Nat) : Reader Bool :=
  return ((← get).widths.lookup group).isSome

/-- Inside a lookbehind only groups that were complete before it may be referred to. -/
def checkLookbehind (group : Nat) : Reader Unit := do
  match (← get).lookbehind with
  | none => return
  | some first =>
    unless ← isComplete group do fail .openGroup 0
    if first ≤ group then fail .sameLookbehind 0

def addGroup (name : Option Text) : Reader Nat := do
  let group := (← get).groups
  modify fun st => { st with groups := group + 1 }
  if let some name := name then
    match (← get).names.lookup name with
    | some earlier => fail (.groupNameTaken name group earlier) (name.length + 1)
    | none => modify fun st => { st with names := (name, group) :: st.names }
  return group

end Reader

end Excerpt.Pattern
