import Excerpt.Settings.Basic

/-!
Checked settings: what each of them may be, and the options that they then are.
-/

namespace Excerpt

inductive Format where
  | text
  | json
  deriving DecidableEq, Repr

namespace Format

def name : Format → String
  | text => "text"
  | json => "json"

def named? (v : Value) : Option Format :=
  match v with
  | .text t => [text, json].find? fun f => f.name.toList == t
  | _ => none

end Format

inductive Level where
  | debug
  | info
  | warning
  | error
  | critical
  deriving DecidableEq, Repr

namespace Level

def name : Level → String
  | debug => "DEBUG"
  | info => "INFO"
  | warning => "WARNING"
  | error => "ERROR"
  | critical => "CRITICAL"

def all : List Level := [debug, info, warning, error, critical]

def named? (v : Value) : Option Level :=
  match v with
  | .text t => all.find? fun l => l.name.toList == t
  | _ => none

def rank : Level → Nat
  | debug => 10
  | info => 20
  | warning => 30
  | error => 40
  | critical => 50

end Level

structure Options where
  format : Format
  indent : Nat
  separator : Text
  maxFileSize : Nat
  maxSelectorLength : Nat
  level : Level
  deriving DecidableEq, Repr

namespace Settings

/-- Why settings are refused. -/
inductive Fault where
  | notInteger (f : Field)
  | unknownFormat
  | unknownLevel
  | separatorNotText
  | negativeIndent
  | notPositive (f : Field)
  deriving DecidableEq, Repr

def Fault.message : Fault → String
  | notInteger f => "`" ++ f.name ++ "` must be an integer"
  | unknownFormat => "`output_format` must be one of: text, json, raw"
  | unknownLevel =>
    "`log_level` must be one of: " ++ ", ".intercalate (Level.all.map Level.name)
  | separatorNotText => "`separator` must be a string"
  | negativeIndent => "`json_indent` must be >= 0"
  | notPositive f => "`" ++ f.name ++ "` must be a positive integer"

def integer (s : Settings) (f : Field) : Except Fault Int :=
  match s.get f with
  | .integer n => .ok n
  | _ => .error (.notInteger f)

def positive (f : Field) (n : Int) : Except Fault Nat :=
  if 0 < n then .ok n.toNat else .error (.notPositive f)

def orFault {α : Type} (o : Option α) (f : Fault) : Except Fault α :=
  match o with
  | some a => .ok a
  | none => .error f

/-- The separator, if it is text. -/
def separator? (s : Settings) : Option Text :=
  match s.separator with
  | .text t => some t
  | _ => none

/-- The options that normalized settings are. -/
def options (s : Settings) : Except Fault Options := do
  let indent ← s.integer .jsonIndent
  let maxFileSize ← s.integer .maxFileSize
  let maxSelectorLength ← s.integer .maxSelectorLength
  let format ← orFault (Format.named? s.outputFormat) .unknownFormat
  let level ← orFault (Level.named? s.logLevel) .unknownLevel
  let separator ← orFault s.separator? .separatorNotText
  if indent < 0 then .error .negativeIndent
  else do
    let maxFileSize ← positive .maxFileSize maxFileSize
    let maxSelectorLength ← positive .maxSelectorLength maxSelectorLength
    return ⟨format, indent.toNat, separator, maxFileSize, maxSelectorLength, level⟩

/-- Settings are checked in their normal form. -/
def check (s : Settings) : Except Fault Options := s.normalize.options

end Settings

end Excerpt
