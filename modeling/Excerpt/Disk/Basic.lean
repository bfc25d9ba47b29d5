import Excerpt.Text.Utf8

/-!
A tree of files, folders, links and pipes.
-/

namespace Excerpt

/-- A place in the tree: the names that lead to it from the root. -/
abbrev Place := List Text

/-- What may be done with a node, as far as its mode says so to its owner. -/
inductive Right where
  | read
  | write
  | search
  deriving DecidableEq, Repr

/-- The bit of a mode that grants a right. -/
def Right.bit : Right → Nat
  | read => 8
  | write => 7
  | search => 6

def Right.isGranted (r : Right) (mode : Nat) : Bool := mode.testBit r.bit

/-- A mode without the bits that grant a file's user or group to whoever runs it; the bit of the
group has another meaning where the group may not run the file, and then it stays. -/
def plainer (mode : Nat) : Nat :=
  let mode := if mode.testBit 11 then mode - 0o4000 else mode
  if mode.testBit 10 && mode.testBit 3 then mode - 0o2000 else mode

structure FileData where
  bytes : List UInt8
  mode : Nat
  inode : Nat
  modified : Nat
  deriving DecidableEq, Repr

inductive Node where
  | file (f : FileData)
  | folder (mode : Nat)
  | link (target : Text)
  | pipe
  deriving DecidableEq, Repr

/-- The mode of a new folder. -/
def folderMode : Nat := 0o755

/-- What stands where, and a clock that dates every change. -/
structure Disk where
  nodes : List (Place × Node) := []
  clock : Nat := 1
  deriving DecidableEq, Repr

def Place.toText (p : Place) : Text := '/' :: Text.joinWith ['/'] p

namespace Disk

/-- The node at a place; the root is always a folder. -/
def node? (d : Disk) (p : Place) : Option Node :=
  if p.isEmpty then some (.folder folderMode) else (d.nodes.find? fun e => e.1 == p).map (·.2)

def erase (d : Disk) (p : Place) : Disk :=
  { d with nodes := d.nodes.filter fun e => e.1 != p }

/-- Puts a node at a place in exchange for what is there. -/
def put (d : Disk) (p : Place) (n : Node) : Disk :=
  { d.erase p with nodes := (p, n) :: (d.erase p).nodes }

def tick (d : Disk) : Disk := { d with clock := d.clock + 1 }

@[simp] theorem node?_tick (d : Disk) (p : Place) : d.tick.node? p = d.node? p := rfl

theorem node?_put_self (d : Disk) {p : Place} (h : p ≠ []) (n : Node) :
    (d.put p n).node? p = some n := by
  simp [node?, put, h]

theorem find?_erase_of_ne {p q : Place} (h : q ≠ p) (nodes : List (Place × Node)) :
    (nodes.filter fun e => e.1 != p).find? (fun e => e.1 == q)
      = nodes.find? fun e => e.1 == q := by
  induction nodes with
  | nil => rfl
  | cons e es ih =>
    by_cases hp : e.1 = p
    · have hq : ¬ e.1 = q := fun hq => h (hq.symm.trans hp)
      simp [hp, Ne.symm h, ih]
    · simp [hp, List.find?_cons, ih]

theorem node?_erase_of_ne (d : Disk) {p q : Place} (h : q ≠ p) :
    (d.erase p).node? q = d.node? q := by
  simp only [node?, erase, find?_erase_of_ne h]

theorem node?_erase_self (d : Disk) {p : Place} (h : p ≠ []) : (d.erase p).node? p = none := by
  simp [node?, erase, h]

theorem node?_put_of_ne (d : Disk) {p q : Place} (h : q ≠ p) (n : Node) :
    (d.put p n).node? q = d.node? q := by
  have hf : ((p, n).1 == q) = false := by simpa using Ne.symm h
  simp only [node?, put, List.find?_cons, hf, erase, find?_erase_of_ne h]

/-- The regular files with their places. -/
def files (d : Disk) : List (Place × FileData) :=
  d.nodes.filterMap fun e =>
    match e.2 with
    | .file f => some (e.1, f)
    | _ => none

end Disk

end Excerpt
