import Excerpt.Toml.Table
import Excerpt.Text.Case

/-!
The settings of a run, with values of any kind, as files and callers give them.
-/

namespace Excerpt

inductive Field where
  | outputFormat
  | jsonIndent
  | separator
  | maxFileSize
  | maxSelectorLength
  | logLevel
  deriving DecidableEq, Repr

namespace Field

def name : Field → String
  | outputFormat => "output_format"
  | jsonIndent => "json_indent"
  | separator => "separator"
  | maxFileSize => "max_file_size"
  | maxSelectorLength => "max_selector_length"
  | logLevel => "log_level"

def all : List Field :=
  [outputFormat, jsonIndent, separator, maxFileSize, maxSelectorLength, logLevel]

def named? (t : Text) : Option Field := all.find? fun f => f.name.toList == t

theorem mem_all (f : Field) : f ∈ all := by cases f <;> simp [all]

theorem named?_name (f : Field) : named? f.name.toList = some f := by cases f <;> rfl

end Field

structure Settings where
  outputFormat : Value := .text "text".toList
  jsonIndent : Value := .integer 2
  separator : Value := .text ['\n']
  maxFileSize : Value := .integer 10485760
  maxSelectorLength : Value := .integer 1000
  logLevel : Value := .text "WARNING".toList

namespace Settings

def get (s : Settings) : Field → Value
  | .outputFormat => s.outputFormat
  | .jsonIndent => s.jsonIndent
  | .separator => s.separator
  | .maxFileSize => s.maxFileSize
  | .maxSelectorLength => s.maxSelectorLength
  | .logLevel => s.logLevel

def set (s : Settings) (f : Field) (v : Value) : Settings :=
  match f with
  | .outputFormat => { s with outputFormat := v }
  | .jsonIndent => { s with jsonIndent := v }
  | .separator => { s with separator := v }
  | .maxFileSize => { s with maxFileSize := v }
  | .maxSelectorLength => { s with maxSelectorLength := v }
  | .logLevel => { s with logLevel := v }

/-- The entries of a table as settings; none if a key names no setting. -/
def ofTable? : Table → Option Settings
  | [] => some {}
  | (key, v) :: entries =>
    match Field.named? key, ofTable? entries with
    | some f, some s => some (s.set f v)
    | _, _ => none

/-- Values given for some fields. -/
abbrev Overrides := List (Field × Value)

def isGiven : Value → Bool
  | .null => false
  | _ => true

/-- The overrides by name; none if a name with a value is not that of a setting. -/
def overrides? (entries : List (Text × Value)) : Option Overrides :=
  (entries.filter fun e => isGiven e.2).mapM fun e => (Field.named? e.1).map (·, e.2)

/-- Settings with the given values in place of their own. -/
def overlay (s : Settings) (changes : Overrides) : Settings :=
  changes.foldl (fun s c => s.set c.1 c.2) s

/-- `raw` is another word for `text`. -/
def formatValue : Value → Value
  | .text t => .text (if t == "raw".toList then "text".toList else t)
  | v => v

/-- Log levels are named in capitals. -/
def levelValue : Value → Value
  | .text t => .text t.upper
  | v => v

def normalize (s : Settings) : Settings :=
  { s with outputFormat := formatValue s.outputFormat, logLevel := levelValue s.logLevel }

end Settings

end Excerpt
