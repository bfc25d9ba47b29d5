import Excerpt.Text.Quoted

/-!
Why the system refuses an operation on a file.
-/

namespace Excerpt

inductive Errno where
  | notPermitted
  | noEntry
  | failedTransfer
  | denied
  | notFolder
  | isFolder
  | noSpace
  | nameTooLong
  | tooManyLinks
  deriving DecidableEq, Repr

namespace Errno

def code : Errno → Nat
  | notPermitted => 1
  | noEntry => 2
  | failedTransfer => 5
  | denied => 13
  | notFolder => 20
  | isFolder => 21
  | noSpace => 28
  | nameTooLong => 36
  | tooManyLinks => 40

def text : Errno → String
  | notPermitted => "Operation not permitted"
  | noEntry => "No such file or directory"
  | failedTransfer => "Input/output error"
  | denied => "Permission denied"
  | notFolder => "Not a directory"
  | isFolder => "Is a directory"
  | noSpace => "No space left on device"
  | nameTooLong => "File name too long"
  | tooManyLinks => "Too many levels of symbolic links"

/-- Whether the cause is a lack of rights. -/
def isRights : Errno → Bool
  | notPermitted | denied => true
  | _ => false

end Errno

/-- A refused operation, with the path as it was written. -/
structure DiskFault where
  errno : Errno
  path : Text
  deriving DecidableEq, Repr

def DiskFault.message (f : DiskFault) : Text :=
  s!"[Errno {f.errno.code}] {f.errno.text}: ".toList ++ f.path.quoted

/-- Why a path with a null character in it is never handed to the system. -/
def nullByteMessage : String := "embedded null byte"

end Excerpt
