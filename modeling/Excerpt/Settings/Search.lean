import Excerpt.Disk.Real
import Excerpt.Document.Access
import Excerpt.Settings.Options
import Excerpt.Toml.Document

/-!
The settings in force in a folder: those of the nearest configuration file there or above, with the
given values in place of its own.
-/

namespace Excerpt.Settings

/-- A configuration file and the tables in it that may hold settings, the first one first. -/
structure Source where
  file : Text
  tables : List Toml.Path
  deriving DecidableEq, Repr

/-- The configuration files of a folder, the first one first. -/
def sources : List Source := [
  ⟨"pyproject.toml".toList, [["tool".toList, "md-query".toList]]⟩,
  ⟨".md-query.toml".toList, [["md-query".toList], ["tool".toList, "md-query".toList]]⟩]

/-- Why no settings are found. -/
inductive SearchFault where
  | badTable (table : Toml.Path) (file : Place)
  | undecodable (cause : Utf8Fault)
  | tooManyDigits (cause : TooManyDigits)
  | refused (cause : DiskFault)
  | linkLoop (path : Text)
  | badValue (cause : Fault)
  | nullByte
  deriving DecidableEq, Repr

def SearchFault.message : SearchFault → Text
  | badTable table file =>
    "Invalid `[".toList ++ Text.joinWith ['.'] table ++ "]` settings in ".toList ++ file.toText
  | undecodable cause => cause.message.toList
  | tooManyDigits cause => cause.message.toList
  | refused cause => cause.message
  | linkLoop path => "Symlink loop from ".toList ++ path.quoted
  | badValue cause => cause.message.toList
  | nullByte => nullByteMessage.toList

/-- Whether the fault lies in the settings themselves. -/
def SearchFault.isReported : SearchFault → Bool
  | badTable .. | badValue _ => true
  | _ => false

/-- The values that a table of settings gives. -/
def ofValue (table : Toml.Path) (file : Place) (v : Value) : Except SearchFault Settings :=
  match v with
  | .null => .ok {}
  | .table entries => orElse (ofTable? entries)
  | _ => .error (.badTable table file)
where
  orElse : Option Settings → Except SearchFault Settings
    | some s => .ok s
    | none => .error (.badTable table file)

/-- Whether looking for a file ends in an error that only says that there is none. -/
def isAbsence : Errno → Bool
  | .noEntry | .notFolder | .tooManyLinks => true
  | _ => false

/-- The text of a configuration file; none if it is missing or cannot be read. -/
def fileText (d : Disk) (file : Place) : Except SearchFault (Option Text) :=
  match d.look [] file.toText true with
  | .ok (_, .file f) =>
    if Right.read.isGranted f.mode then
      match Utf8.decode f.bytes with
      | .ok t => .ok (some t)
      | .error cause => .error (.undecodable cause)
    else .ok none
  | .ok _ => .ok none
  | .error e => if isAbsence e then .ok none else .error (.refused ⟨e, file.toText⟩)

/-- The tables of a configuration file; none if it is missing or invalid. -/
def fileTable (d : Disk) (file : Place) : Except SearchFault (Option Table) := do
  match ← fileText d file with
  | none => return none
  | some t =>
    match Toml.read t with
    | .ok table => return some table
    | .error .invalid => return none
    | .error (.tooManyDigits cause) => .error (.tooManyDigits cause)

/-- The first of some tables that is there, with its path. -/
def firstTable? (root : Table) (tables : List Toml.Path) : Option (Toml.Path × Value) :=
  tables.findSome? fun path => (root.find? path).map (path, ·)

/-- The settings of the first source that has some. -/
def ofSources (d : Disk) (folder : Place) : List Source → Except SearchFault (Option Settings)
  | [] => .ok none
  | source :: rest => do
    let file := folder ++ [source.file]
    match (← fileTable d file).bind (firstTable? · source.tables) with
    | some (path, v) => return some (← ofValue path file v)
    | none => ofSources d folder rest

/-- A folder and those above it, the nearest first. -/
def ancestors (folder : Place) : List Place :=
  (List.range (folder.length + 1)).map fun n => folder.take (folder.length - n)

/-- The settings of the first folder that has some, else the defaults. -/
def ofFolders (d : Disk) : List Place → Except SearchFault Settings
  | [] => .ok {}
  | folder :: rest => do
    match ← ofSources d folder sources with
    | some s => return s.normalize
    | none => ofFolders d rest

/-- The folder from which the search starts, with all links replaced. -/
def startOf (d : Disk) (current : Place) (r : Route) : Except SearchFault Place :=
  if r.hasNull then .error .nullByte
  else
    match d.real current false r with
    | .error f => .error (.refused f)
    | .ok p =>
      match d.look [] p.toText true with
      | .error .tooManyLinks => .error (.linkLoop p.toText)
      | _ => .ok p

/-- The settings of a folder. -/
def load (d : Disk) (current : Place) (r : Route) : Except SearchFault Settings := do
  ofFolders d (ancestors (← startOf d current r))

/-- The settings of a folder with some values replaced, checked. -/
def build (d : Disk) (current : Place) (r : Route) (changes : Overrides) :
    Except SearchFault (Settings × Options) := do
  let s := ((← load d current r).overlay changes).normalize
  match s.check with
  | .ok options => return (s, options)
  | .error cause => .error (.badValue cause)

end Excerpt.Settings
