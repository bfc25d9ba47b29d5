import Excerpt.Text.Utf8
import Mathlib.Tactic.IntervalCases

/-!
Text survives the way into bytes and back.
-/

namespace Excerpt.Utf8

/-- A byte that goes on with a character. -/
def Continues (b : UInt8) : Prop := 0x80 ≤ b ∧ b ≤ 0xBF

section Lead

variable {n : Nat}

end Lead

section Bits

variable {v : Nat}

variable (offset : Nat) (bs : List UInt8)

end Bits

end Excerpt.Utf8
