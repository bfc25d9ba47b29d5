import Excerpt.Selector.Matcher
import Excerpt.Selector.Position
import Excerpt.Selector.Word
import Excerpt.Selector.Written

/-!
Selectors: chains of segments. A segment whose word is unknown is kept, and selects nothing.
-/

namespace Excerpt

structure Segment where
  name : Text
  word : Option Word
  matcher : Option Matcher
  position : Option Position

/-- Why a selector cannot be used. -/
inductive SelectorFault where
  | pattern (source : Text) (fault : Pattern.Fault)
  | position (e : TooManyDigits)
  deriving DecidableEq, Repr

namespace SelectorFault

/-- A pattern that is malformed is the writer's fault; the other faults are limits. -/
def isMalformed : SelectorFault → Bool
  | pattern _ f =>
    match f with
    | .longLookbehind | .repetitionTooLarge | .tooManyDigits _ | .asciiAndUnicode => false
    | _ => true
  | position _ => false

def message : SelectorFault → String
  | pattern source f =>
    if (pattern source f).isMalformed then
      "Invalid regular expression /" ++ String.ofList source ++ "/: " ++ f.message source
    else f.message source
  | position e => e.message

end SelectorFault

namespace Matcher

def ofWritten (t : WrittenTest) : Except SelectorFault Matcher :=
  match t.form with
  | .exact => .ok ⟨.exact t.value, t.negated⟩
  | .contains => .ok ⟨.contains t.value, t.negated⟩
  | .pattern =>
    match Pattern.read t.value with
    | .ok p => .ok ⟨.pattern t.value p, t.negated⟩
    | .error f => .error (.pattern t.value f)

def ofWritten? : Option WrittenTest → Except SelectorFault (Option Matcher)
  | none => .ok none
  | some t => (ofWritten t).map some

end Matcher

namespace Position

/-- The position that a run of brackets gives: the last one that is a position counts. -/
def ofBrackets (current : Option Position) :
    List Text → Except SelectorFault (Option Position)
  | [] => .ok current
  | b :: bs =>
    match read? b with
    | .error e => .error (.position e)
    | .ok none => ofBrackets current bs
    | .ok (some p) => ofBrackets (some p) bs

end Position

namespace Segment

def ofWritten (s : WrittenSegment) : Except SelectorFault Segment := do
  let matcher ← Matcher.ofWritten? s.test
  let position ← Position.ofBrackets none s.brackets
  return ⟨s.name, Word.named? s.name, matcher, position⟩

def ofWrittens : List WrittenSegment → Except SelectorFault (List Segment)
  | [] => .ok []
  | s :: ss => do
    let first ← ofWritten s
    let rest ← ofWrittens ss
    return first :: rest

end Segment

/-- Reads a selector. -/
def Text.selector (t : Text) : Except SelectorFault (List Segment) :=
  Segment.ofWrittens (Written.segments t)

end Excerpt
