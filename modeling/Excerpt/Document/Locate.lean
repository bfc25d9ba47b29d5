import Excerpt.Disk.Real
import Excerpt.Text.Case

/-!
Finding the document that a path names. It has to be a Markdown file inside a base folder, and no
link may lead to it.
-/

namespace Excerpt.Document

inductive LocateFault where
  | overLink (path : Route)
  | absent (path : Route)
  | unresolved (path : Route) (cause : DiskFault)
  | notFile (place : Place)
  | outside (place : Place) (base : Route)
  | notMarkdown (place : Place)
  | linkLoop (path : Text)
  | noHome
  | nullByte
  | refused (cause : DiskFault)
  deriving DecidableEq, Repr

/-- The endings of Markdown files, in small letters. -/
def suffixes : List String := [".md", ".markdown"]

namespace LocateFault

/-- Whether the fault is one that a user is told about. -/
def isReported : LocateFault → Bool
  | linkLoop _ | noHome | refused _ => false
  | _ => true

def message : LocateFault → Text
  | overLink r => "Symlinks are not supported for security reasons: ".toList ++ r.toText
  | absent r => r.toText ++ " does not exist.".toList
  | unresolved r cause =>
    "Error resolving ".toList ++ r.toText ++ ": ".toList ++ cause.message
  | notFile p => p.toText ++ " is not a regular file.".toList
  | outside p base =>
    p.toText ++ " is outside of the working directory ".toList ++ base.toText ++ ['.']
  | notMarkdown p =>
    p.toText ++ " is not a Markdown file.\nSupported extensions are: ".toList ++
      (", ".intercalate suffixes).toList
  | linkLoop path => "Symlink loop from ".toList ++ path.quoted
  | noHome => "Could not determine home directory.".toList
  | nullByte => nullByteMessage.toList
  | refused cause => cause.message

end LocateFault

def isMarkdownName (name : Text) : Bool :=
  suffixes.any fun s => s.toList == (Route.suffixOf name).map Text.lowerChar

/-- Whether a place lies at or below the folder that a path names. -/
def isWithin (base : Route) (p : Place) : Bool :=
  base.anchor == .root && base.names.isPrefixOf p

/-- A path into the home folder of a user. -/
def isHomeward (r : Route) : Bool :=
  r.anchor == .here && (r.names.head?.bind List.head?) == some '~'

def resolveFault (r : Route) (f : DiskFault) : LocateFault :=
  match f.errno with
  | .noEntry => .absent r
  | .tooManyLinks => .linkLoop f.path
  | _ => .unresolved r f

/-- The place of the document that a path names. -/
def locate (d : Disk) (current : Place) (base r : Route) : Except LocateFault Place :=
  if isHomeward r then .error .noHome
  else if d.meetsLink current r then .error (.overLink r)
  else
    match d.real current true r.beforeNull with
    | .error f => .error (resolveFault r f)
    | .ok p =>
      if r.hasNull then .error .nullByte
      else
        match d.entry [] (.ofPlace p) with
        | .ok (_, .file _) =>
          if !isWithin base p then .error (.outside p base)
          else if !isMarkdownName (p.getLast?.getD []) then .error (.notMarkdown p)
          else .ok p
        | .error .denied => .error (.refused ⟨.denied, p.toText⟩)
        | _ => .error (.notFile p)

end Excerpt.Document
