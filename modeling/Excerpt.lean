import Excerpt.Disk.Change
import Excerpt.Main
import Excerpt.Number.Shortest
import Excerpt.Proofs.Edit
import Excerpt.Proofs.Reachable
import Excerpt.Proofs.Nesting
import Excerpt.Proofs.Stages
import Excerpt.Proofs.Tiling
import Excerpt.Proofs.Surroundings
import Excerpt.Proofs.Levels
import Excerpt.Proofs.Replacing
import Excerpt.Proofs.Bodies
import Excerpt.Proofs.Endings
import Excerpt.Proofs.Scoping
import Excerpt.Proofs.Chains
import Excerpt.Proofs.Complements
import Excerpt.Proofs.Records
import Excerpt.Proofs.Cells
import Excerpt.Proofs.Drafts
import Excerpt.Proofs.Numerals
import Excerpt.Proofs.Renderings
import Excerpt.Proofs.Borders
import Excerpt.Proofs.Items
import Excerpt.Proofs.Interruptions
import Excerpt.Proofs.Refusals
import Excerpt.Proofs.Encoding
import Excerpt.Proofs.Writing
import Excerpt.Proofs.Saving
import Excerpt.Proofs.Atomicity
import Excerpt.Proofs.Casing
import Excerpt.Proofs.Checking
import Excerpt.Proofs.Precedence
import Excerpt.Proofs.Obstacles
import Excerpt.Proofs.Containment
import Excerpt.Proofs.Located
import Excerpt.Proofs.Fields
import Excerpt.Proofs.Rows
import Excerpt.Proofs.Fences
import Excerpt.Proofs.Positions
import Excerpt.Proofs.Ranges
