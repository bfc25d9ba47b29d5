import Excerpt.Command.Switch
import Excerpt.Text.Quoted
import Excerpt.Text.Similar

/-!
The arguments of a run: which are switches, which are their values, and which are operands.
-/

namespace Excerpt.Command

/-- Arguments told apart: switches with their values, in order, and operands. -/
structure Arguments where
  switches : List (Switch × Option Text) := []
  operands : List Text := []
  deriving DecidableEq, Repr

/-- Why arguments cannot be told apart. -/
inductive ArgumentFault where
  | valueMissing (s : Switch)
  | valueUnwanted (s : Switch)
  | unknown (written : Text) (similar : List Text)
  deriving DecidableEq, Repr

namespace ArgumentFault

def suggestion (similar : List Text) : Text :=
  let names := Text.joinWith [',', ' '] (similar.map Text.quoted)
  match similar with
  | [] => []
  | [_] => " Did you mean ".toList ++ names ++ ['?']
  | _ => " (Did you mean one of: ".toList ++ names ++ "?)".toList

def message : ArgumentFault → Text
  | valueMissing s => s!"Option '{s.name}' requires an argument.".toList
  | valueUnwanted s => s!"Option '{s.name}' does not take a value.".toList
  | unknown written similar =>
    "No such option ".toList ++ written.quoted ++ ['.'] ++ suggestion similar

end ArgumentFault

namespace Arguments

def addSwitch (s : Switch) (v : Option Text) (a : Arguments) : Arguments :=
  { a with switches := (s, v) :: a.switches }

def addOperand (t : Text) (a : Arguments) : Arguments := { a with operands := t :: a.operands }

/-- The name in a switch, and the value behind an equals sign. -/
def splitValue (t : Text) : Text × Option Text :=
  match t.dropWhile (· != '=') with
  | _ :: v => (t.takeWhile (· != '='), some v)
  | [] => (t, none)

/-- A switch nobody knows. Behind one dash its first letter is named. -/
def unknown (t : Text) : ArgumentFault :=
  match t with
  | '-' :: '-' :: _ =>
    let name := (splitValue t).1
    .unknown name (Text.similar name (Switch.all.map fun s => s.name.toList))
  | t => .unknown (t.take 2) []

/-- Whether an argument is a switch. A lone dash is not. -/
def isSwitch : Text → Bool
  | '-' :: _ :: _ => true
  | _ => false

/-- Tells arguments apart. Behind two dashes all are operands. -/
def read : List Text → Except ArgumentFault Arguments
  | [] => .ok {}
  | t :: rest =>
    if t == ['-', '-'] then .ok { operands := rest }
    else if isSwitch t then
      match Switch.named? (splitValue t).1 with
      | none => .error (unknown t)
      | some s =>
        if s.takesValue then
          match (splitValue t).2, rest with
          | some v, rest => (read rest).map (addSwitch s (some v))
          | none, v :: rest => (read rest).map (addSwitch s (some v))
          | none, [] => .error (.valueMissing s)
        else if (splitValue t).2.isSome then .error (.valueUnwanted s)
        else (read rest).map (addSwitch s none)
    else (read rest).map (addOperand t)

def has (a : Arguments) (s : Switch) : Bool := a.switches.any fun e => e.1 == s

/-- The value of a switch; the last one counts. -/
def value? (a : Arguments) (s : Switch) : Option Text :=
  (a.switches.filter fun e => e.1 == s).getLast?.bind (·.2)

end Arguments

end Excerpt.Command
