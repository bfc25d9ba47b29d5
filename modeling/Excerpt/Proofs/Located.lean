import Excerpt.Document.Locate
import Excerpt.Proofs.Containment

/-!
Located documents: they lie at real places below the base folder, and each Markdown file at such a
place is located by its own path, if the system lets it be looked up.
-/

namespace Excerpt

namespace Disk

variable {d : Disk} {current p q : Place} {name : Text}

end Disk

namespace Route

end Route

namespace Document

open Disk

variable {d : Disk} {current base p : Place}

/-- A link that is refused under its own name passes behind a name that no lookup gets past. -/
example :
    let d : Disk :=
      { nodes := [(["a.md".toList], .file ⟨[], 0o644, 1, 1⟩), (["b.md".toList], .link "a.md".toList)] }
    locate d [] (.ofPlace []) (.ofText "b.md".toList) = .error (.overLink (.ofText "b.md".toList)) ∧
      locate d [] (.ofPlace []) (.ofText "a.md/../b.md".toList) = .ok ["a.md".toList] := by
  intro d
  dsimp only [d]
  constructor <;> cbv

end Document

end Excerpt
