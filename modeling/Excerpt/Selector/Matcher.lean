import Excerpt.Pattern.Whole

/-!
Matchers compare the text of a token.
-/

namespace Excerpt

inductive Comparison where
  | exact (value : Text)
  | contains (value : Text)
  | pattern (source : Text) (p : Pattern)

namespace Comparison

def holds (t : Text) : Comparison → Bool
  | exact v => t == v
  | contains v => Text.hasPart v t
  | pattern _ p => p.isIn t

end Comparison

structure Matcher where
  comparison : Comparison
  negated : Bool

namespace Matcher

def accepts (m : Matcher) (t : Text) : Bool := m.comparison.holds t != m.negated

def accepts? (m : Option Matcher) (t : Text) : Bool :=
  match m with
  | some m => m.accepts t
  | none => true

end Matcher

end Excerpt
