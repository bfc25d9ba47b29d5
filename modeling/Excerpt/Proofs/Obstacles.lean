import Excerpt.Proofs.Precedence
import Excerpt.Proofs.Writing

/-!
What a search for settings passes over, and what it does not get past. A file that may not be read,
or whose text is no valid configuration, is as good as none; a file that is no text, or that has an
integer with too many digits, is an obstacle, and so is one that cannot be looked up for another
reason than that it is not there.
-/

namespace Excerpt

namespace Disk

variable {d : Disk} {p q : Place} {f : FileData}

/-- How many steps the link at a node can take. -/
def span (n : Node) : Nat :=
  match n with
  | .link target => target.length + 2
  | _ => 0

end Disk

namespace Settings

open Disk

variable {d e : Disk} {current start file p : Place} {r : Route} {f : FileData} {fault : SearchFault}

section Fault

end Fault

end Settings

end Excerpt
