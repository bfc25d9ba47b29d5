import Excerpt.Command.Run
import Excerpt.Proofs.Encoding
import Excerpt.Proofs.Writing
import Mathlib

/-!
Runs that save what they replace. Such a run writes to its document what the run without the switch
for it prints; a run that fails, and one that only prints, leave the files alone.
-/

namespace Excerpt.Command

namespace Arguments

variable {a : Arguments} {s t : Switch}

/-- The arguments without a switch, wherever it is given. -/
def without (s : Switch) (a : Arguments) : Arguments :=
  { a with switches := a.switches.filter fun e => e.1 != s }

@[simp] theorem operands_without : (a.without s).operands = a.operands := rfl

end Arguments

namespace Request

variable {a : Arguments} {d : Disk} {current : Place} {r : Request}

theorem orFault_eq_ok {α : Type} {fault : Option RequestFault} {x : Except RequestFault α} {y : α} :
    orFault fault x = .ok y ↔ fault = none ∧ x = .ok y := by
  cases fault <;> simp [orFault]

end Request

section Perform

open Document Disk

variable {w : World} {r : Request} {t : Task} {p : Place} {options : Options}

@[simp] theorem result_after (notes : List Note) (e : Effect) : (e.after notes).result = e.result :=
  rfl

section Replacing

variable {content : Text} (hcontent : r.replacement = some content) (hcount : r.count = false)
include hcontent hcount

variable (hin : r.inPlace = true)
include hin

end Replacing

end Perform

section Run

open Document Disk

variable {w : World} {arguments : List Text} {a : Arguments}

end Run

end Excerpt.Command
