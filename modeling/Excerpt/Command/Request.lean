import Excerpt.Command.Arguments
import Excerpt.Disk.Walk
import Excerpt.Number.Integer
import Excerpt.Selection.Basic
import Excerpt.Settings.Options

/-!
What a run is asked to do.
-/

namespace Excerpt.Command

inductive Operand where
  | filePath
  | selector
  deriving DecidableEq, Repr

def Operand.name : Operand → String
  | filePath => "FILEPATH"
  | selector => "SELECTOR"

/-- Why arguments are no request. -/
inductive RequestFault where
  | notFormat (written : Text)
  | notLevel (written : Text)
  | notInteger (s : Switch) (written : Text)
  | missing (o : Operand)
  | absent (path : Text)
  | folder (path : Text)
  | unreadable (path : Text)
  | nullByte
  | extra (operands : List Text)
  | exclusive (s t : Switch)
  | without (s t : Switch)
  | replacesOnly
  deriving DecidableEq, Repr

/-- The words for output formats. -/
def formatWords : List String := ["text", "json", "raw"]

/-- The words for log levels are read in letters of either case. -/
def level? (written : Text) : Option Level :=
  Level.all.find? fun l => l.name.toList.map Char.toLower == written.map Char.toLower

namespace RequestFault

def choices (words : List String) : Text :=
  Text.joinWith [',', ' '] (words.map fun w => Text.quoted w.toList)

def ofSwitch (s : Switch) (reason : Text) : Text :=
  s!"Invalid value for '{s.name}': ".toList ++ reason

def ofPath (path : Text) (reason : String) : Text :=
  s!"Invalid value for '{Operand.filePath.name}': File ".toList ++ path.quoted ++ reason.toList

def message : RequestFault → Text
  | notFormat t =>
    ofSwitch .format (t.quoted ++ " is not one of ".toList ++ choices formatWords ++ ['.'])
  | notLevel t =>
    ofSwitch .logLevel (t.quoted ++ " is not one of ".toList ++
      choices (Level.all.map fun l => String.ofList (l.name.toList.map Char.toLower)) ++ ['.'])
  | notInteger s t => ofSwitch s (t.quoted ++ " is not a valid integer.".toList)
  | missing o => s!"Missing argument '{o.name}'.".toList
  | absent path => ofPath path " does not exist."
  | folder path => ofPath path " is a directory."
  | unreadable path => ofPath path " is not readable."
  | nullByte => nullByteMessage.toList
  | extra [t] => "Got unexpected extra argument (".toList ++ t ++ [')']
  | extra ts => "Got unexpected extra arguments (".toList ++ Text.joinWith [' '] ts ++ [')']
  | exclusive s t => ("`" ++ s.name ++ "` and `" ++ t.name ++ "` are mutually exclusive.").toList
  | without s t => ("`" ++ s.name ++ "` requires `" ++ t.name ++ "`.").toList
  | replacesOnly =>
    ("`" ++ Switch.replace.name ++ "` cannot be combined with `" ++ Switch.count.name ++ "` or `" ++
      Switch.each.name ++ "`.").toList

end RequestFault

structure Request where
  path : Text
  selector : Text
  format : Option Text
  indent : Option Int
  level : Option Level
  count : Bool
  first : Bool
  last : Bool
  before : Bool
  after : Bool
  each : Bool
  replacement : Option Text
  inPlace : Bool
  deriving DecidableEq, Repr

namespace Request

/-- What is wrong with the value of a switch. -/
def valueFault? (s : Switch) (written : Text) : Option RequestFault :=
  match s with
  | .format =>
    if formatWords.any (·.toList == written) then none else some (.notFormat written)
  | .logLevel => if (level? written).isSome then none else some (.notLevel written)
  | .jsonIndent => if (Numeral.read? written).isSome then none else some (.notInteger s written)
  | _ => none

/-- The first switch whose value is wrong. -/
def firstFault? (a : Arguments) : Option RequestFault :=
  a.switches.findSome? fun e => (a.value? e.1).bind (valueFault? e.1)

/-- A path has to lead to something that is no folder and may be read. -/
def pathFault? (d : Disk) (current : Place) (path : Text) : Option RequestFault :=
  if path.contains '\x00' then some .nullByte
  else
    match d.look current path true with
    | .error _ => some (.absent path)
    | .ok (_, .folder _) => some (.folder path)
    | .ok (_, .file f) => if Right.read.isGranted f.mode then none else some (.unreadable path)
    | .ok _ => none

/-- The request with given operands, each switch as it was given. -/
def ofSwitches (a : Arguments) (path selector : Text) : Request where
  path
  selector
  format := a.value? .format
  indent := (a.value? .jsonIndent).bind Numeral.read?
  level := (a.value? .logLevel).bind level?
  count := a.has .count
  first := a.has .first
  last := a.has .last
  before := a.has .before
  after := a.has .after
  each := a.has .each
  replacement := a.value? .replace
  inPlace := a.has .inPlace

/-- What does not go together. -/
def conflict? (r : Request) : Option RequestFault :=
  if r.first && r.last then some (.exclusive .first .last)
  else if r.before && r.after then some (.exclusive .before .after)
  else if r.inPlace && r.replacement.isNone then some (.without .inPlace .replace)
  else if r.replacement.isSome && (r.count || r.each) then some .replacesOnly
  else none

def orFault {α : Type} (fault : Option RequestFault) (a : Except RequestFault α) :
    Except RequestFault α :=
  match fault with
  | some f => .error f
  | none => a

/-- The request that arguments make. -/
def ofArguments (d : Disk) (current : Place) (a : Arguments) : Except RequestFault Request :=
  orFault (firstFault? a) <|
    match a.operands with
    | [] => .error (.missing .filePath)
    | path :: rest =>
      orFault (pathFault? d current path) <|
        match rest with
        | [] => .error (.missing .selector)
        | [selector] =>
          let r := ofSwitches a path selector
          orFault r.conflict? (.ok r)
        | _ :: extra => .error (.extra extra)

/-- The settings that a request overrides. -/
def overrides (r : Request) : Settings.Overrides :=
  (r.format.map fun t => (Field.outputFormat, Value.text t)).toList ++
    (r.indent.map fun n => (Field.jsonIndent, Value.integer n)).toList ++
    (r.level.map fun l => (Field.logLevel, Value.text l.name.toList)).toList

/-- The part of a selection that a request navigates to. -/
def navigate (r : Request) (s : Selection) : Selection :=
  let s := if r.first then s.first else s
  let s := if r.last then s.last else s
  let s := if r.before then s.before else s
  if r.after then s.after else s

end Request

end Excerpt.Command
