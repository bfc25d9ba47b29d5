import Excerpt.Text.Basic

/-!
The switches of the command line.
-/

namespace Excerpt.Command

inductive Switch where
  | version
  | format
  | jsonIndent
  | count
  | first
  | last
  | before
  | after
  | each
  | replace
  | inPlace
  | logLevel
  | help
  deriving DecidableEq, Repr

namespace Switch

def name : Switch → String
  | version => "--version"
  | format => "--format"
  | jsonIndent => "--json-indent"
  | count => "--count"
  | first => "--first"
  | last => "--last"
  | before => "--before"
  | after => "--after"
  | each => "--each"
  | replace => "--replace"
  | inPlace => "--in-place"
  | logLevel => "--log-level"
  | help => "--help"

def all : List Switch :=
  [version, format, jsonIndent, count, first, last, before, after, each, replace, inPlace, logLevel,
    help]

theorem mem_all (s : Switch) : s ∈ all := by cases s <;> simp [all]

/-- Whether the switch has a value. -/
def takesValue : Switch → Bool
  | format | jsonIndent | replace | logLevel => true
  | _ => false

def named? (t : Text) : Option Switch := all.find? fun s => s.name.toList == t

theorem named?_name (s : Switch) : named? s.name.toList = some s := by cases s <;> rfl

def summary : Switch → String
  | version => "Show the version and exit."
  | format => "Output format (text or json)"
  | jsonIndent => "Indentation for JSON output"
  | count => "Print the number of matches"
  | first => "Keep only the first match"
  | last => "Keep only the last match"
  | before => "Select blocks before the first match"
  | after => "Select blocks after the last match"
  | each => "Print matches one by one"
  | replace => "Replace every match with this text"
  | inPlace => "Write the replacement back to the file"
  | logLevel => "Logging level"
  | help => "Show this message and exit."

end Switch

end Excerpt.Command
