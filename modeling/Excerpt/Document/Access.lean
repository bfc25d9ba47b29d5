import Excerpt.Disk.Walk

/-!
Looking at a document's file and reading it.
-/

namespace Excerpt

/-- What the system tells about a file. -/
structure Stat where
  inode : Int
  device : Int
  size : Int
  modified : Int
  mode : Nat
  deriving DecidableEq, Repr

/-- All files are on one device. -/
def FileData.stat (f : FileData) : Stat := ⟨f.inode, 1, f.bytes.length, f.modified, f.mode⟩

namespace Stat

/-- Whether two looks at a file show the same file with the same content. -/
def agrees (s t : Stat) : Bool :=
  s.inode == t.inode && s.device == t.device && s.size == t.size && s.modified == t.modified

end Stat

namespace Document

/-- Why a file is not used. -/
inductive AccessFault where
  | inaccessible (path : Route) (cause : DiskFault)
  | link (path : Route)
  | notFile (path : Route)
  | tooLarge (path : Route) (limit : Int)
  | changed (path : Route)
  | refused (cause : DiskFault)
  | failed (errno : Errno)
  | nullByte
  deriving DecidableEq, Repr

def AccessFault.message : AccessFault → Text
  | inaccessible r cause => "Error accessing ".toList ++ r.toText ++ ": ".toList ++ cause.message
  | link r => "Symlinks are not supported: ".toList ++ r.toText ++ ['.']
  | notFile r => r.toText ++ " is not a regular file.".toList
  | tooLarge r limit =>
    r.toText ++ s!" exceeds the maximum allowed size of {limit} bytes.".toList
  | changed r => r.toText ++ " changed during processing; refusing to overwrite.".toList
  | refused cause => cause.message
  | failed e => s!"[Errno {e.code}] {e.text}".toList
  | nullByte => nullByteMessage.toList

/-- Where a file is and what it holds. Links to files are refused. -/
def find (d : Disk) (current : Place) (r : Route) : Except AccessFault (Place × FileData) :=
  if r.hasNull then .error .nullByte
  else
    match d.look current r.toText false with
    | .error e => .error (.inaccessible r ⟨e, r.toText⟩)
    | .ok (p, .file f) => .ok (p, f)
    | .ok (_, .link _) => .error (.link r)
    | .ok _ => .error (.notFile r)

def inspect (d : Disk) (current : Place) (r : Route) : Except AccessFault Stat :=
  (find d current r).map fun found => found.2.stat

def ensureSize (s : Stat) (limit : Int) (r : Route) : Except AccessFault Unit :=
  if limit < s.size then .error (.tooLarge r limit) else .ok ()

def ensureUnchanged (expected now : Stat) (r : Route) : Except AccessFault Unit :=
  if expected.agrees now then .ok () else .error (.changed r)

/-- The bytes of the file to which a path leads, over links too. -/
def bytes (d : Disk) (current : Place) (r : Route) : Except DiskFault (List UInt8) :=
  match d.look current r.toText true with
  | .error e => .error ⟨e, r.toText⟩
  | .ok (_, .file f) =>
    if Right.read.isGranted f.mode then .ok f.bytes else .error ⟨.denied, r.toText⟩
  | .ok (_, .folder mode) =>
    .error ⟨if Right.read.isGranted mode then .isFolder else .denied, r.toText⟩
  | .ok _ => .error ⟨.failedTransfer, r.toText⟩

inductive ReadFault where
  | access (cause : AccessFault)
  | undecodable (path : Route) (cause : Utf8Fault)
  deriving DecidableEq, Repr

def ReadFault.message : ReadFault → Text
  | access cause => cause.message
  | undecodable r cause =>
    "Invalid UTF-8 sequence in ".toList ++ r.toText ++ ": ".toList ++ cause.message.toList

/-- Causes that are told together with the path. -/
def isCommonCause : Errno → Bool
  | .noEntry | .notPermitted | .denied | .isFolder | .notFolder => true
  | _ => false

/-- Opens a file to read it. -/
def openBytes (d : Disk) (current : Place) (r : Route) : Except AccessFault (List UInt8) :=
  if r.hasNull then .error .nullByte
  else
    match bytes d current r with
    | .ok bs => .ok bs
    | .error cause =>
      .error (if isCommonCause cause.errno then .inaccessible r cause else .refused cause)

/-- The text of a document. -/
def read (d : Disk) (current : Place) (r : Route) : Except ReadFault Text :=
  match openBytes d current r with
  | .error cause => .error (.access cause)
  | .ok bs =>
    match Utf8.decode bs with
    | .ok t => .ok t
    | .error cause => .error (.undecodable r cause)

end Document

end Excerpt
