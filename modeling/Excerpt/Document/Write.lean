import Excerpt.Document.Access

/-!
Giving a document a new text. The text goes into a temporary file that then takes the document's
place, so that no step leaves half a text behind.
-/

namespace Excerpt.Document

/-- The calls to the system that writing a document makes. -/
inductive Call where
  | inspect
  | create
  | write
  | flush
  | sync
  | setMode
  | setOwner
  | rename
  | inspectAgain
  | setTimes
  deriving DecidableEq, Repr

/-- Which calls fail, and why. -/
abbrev Failures := Call → Option Errno

def noFailures : Failures := fun _ => none

/-- A call that lacks the rights to keep the owner is passed over. -/
def isPassedOver (c : Call) (e : Errno) : Bool := c == .setOwner && e.isRights

/-- A call with what it does to the disk. -/
abbrev Step := Call × (Disk → Disk)

/-- Makes the calls in turn until one fails. -/
def run (fails : Failures) : List Step → Disk → Disk × Option Errno
  | [], d => (d, none)
  | (c, effect) :: rest, d =>
    match fails c with
    | none => run fails rest (effect d)
    | some e => if isPassedOver c e then run fails rest d else (d, some e)

/-- The length of the longest name on the disk. -/
def longestName (d : Disk) : Nat :=
  d.nodes.foldr (fun e n => max ((e.1.getLast?.getD []).length) n) 0

/-- A place in a folder where nothing stands: its name is longer than every other one. -/
def freshPlace (d : Disk) (folder : Place) : Place :=
  folder ++ ["tmp".toList ++ List.replicate (longestName d) '_']

/-- Changes the file at a place. -/
def update (p : Place) (f : FileData → FileData) (d : Disk) : Disk :=
  match d.node? p with
  | some (.file data) => d.put p (.file (f data))
  | _ => d

/-- Gives what stands at one place another one. -/
def move (source target : Place) (d : Disk) : Disk :=
  match d.node? source with
  | some n => (d.erase source).put target n
  | none => d

/-- A new file is dated by the clock. -/
def createAt (p : Place) (d : Disk) : Disk :=
  (d.put p (.file ⟨[], 0o600, d.clock, d.clock⟩)).tick

/-- The calls that write new bytes to `target` by way of `temporary`. Whoever sets the owner of a
file takes away the bits that grant its rights. -/
def steps (temporary target : Place) (mode : Nat) (new : List UInt8) : List Step := [
  (.create, createAt temporary),
  (.write, update temporary fun f => { f with bytes := new }),
  (.flush, id),
  (.sync, id),
  (.setMode, update temporary fun f => { f with mode := mode }),
  (.setOwner, update temporary fun f => { f with mode := plainer f.mode }),
  (.rename, move temporary target),
  (.inspectAgain, id),
  (.setTimes, id)]

/-- Replaces the text of a document that is still as it was expected. The temporary file is removed
in any case. -/
def write (fails : Failures) (d : Disk) (current : Place) (r : Route) (content : Text)
    (expected : Stat) : Disk × Except AccessFault Unit :=
  match fails .inspect with
  | some e => (d, .error (.inaccessible r ⟨e, r.toText⟩))
  | none =>
    match find d current r with
    | .error f => (d, .error f)
    | .ok (p, f) =>
      match ensureUnchanged expected f.stat r with
      | .error f => (d, .error f)
      | .ok () =>
        let temporary := freshPlace d p.dropLast
        match run fails (steps temporary p expected.mode (Utf8.encode content)) d with
        | (d, none) => (d.erase temporary, .ok ())
        | (d, some e) => (d.erase temporary, .error (.failed e))

end Excerpt.Document
