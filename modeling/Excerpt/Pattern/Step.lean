import Excerpt.Pattern.Test

/-!
Patterns as the steps of a search. In a step the mode is settled, and groups that only hold their
items together are gone.
-/

namespace Excerpt.Pattern

inductive Step where
  | one (t : Test)
  | stand (mode : Mode) (a : Anchor)
  | capture (group : Nat) (body : List Step)
  | atomic (body : List Step)
  | choice (branches : List (List Step))
  /-- A loop over single characters. -/
  | stretch (greed : Greed) (least : Nat) (most : Option Nat) (t : Test)
  | loop (greed : Greed) (least : Nat) (most : Option Nat) (body : List Step)
  | look (back : Nat) (negated : Bool) (body : List Step)
  | again (mode : Mode) (group : Nat)
  | given (group : Nat) (yes : List Step) (no : Option (List Step))

mutual

/-- The test of a node that is a single character, in groups or not. -/
def Node.single? (mode : Mode) : Node → Option Test
  | .plain body => singleOf? mode body
  | .scoped inner body => singleOf? inner body
  | n => mode.test? n

def singleOf? (mode : Mode) : List Node → Option Test
  | [n] => n.single? mode
  | _ => none

end

mutual

def Node.steps (groups : GroupWidths) (mode : Mode) : Node → List Step
  | .anchor a => [.stand mode a]
  | .plain body => stepsOfAll groups mode body
  | .scoped inner body => stepsOfAll groups inner body
  | .capture g body => [.capture g (stepsOfAll groups mode body)]
  | .atomic body => [.atomic (stepsOfAll groups mode body)]
  | .choice branches => [.choice (stepsOfAny groups mode branches)]
  | .loop greed least most body =>
    match body.single? mode with
    | some t => [.stretch greed least most t]
    | none => [.loop greed least most (body.steps groups mode)]
  | .look behind negated body =>
    let back := if behind then (widthOfAll groups body).least else 0
    [.look back negated (stepsOfAll groups mode body)]
  | .backref g => [.again mode g]
  | .conditional g yes none => [.given g (stepsOfAll groups mode yes) none]
  | .conditional g yes (some []) => [.given g (stepsOfAll groups mode yes) none]
  | .conditional g yes (some no) =>
    [.given g (stepsOfAll groups mode yes) (some (stepsOfAll groups mode no))]
  | n => ((mode.test? n).map Step.one).toList

def stepsOfAll (groups : GroupWidths) (mode : Mode) : List Node → List Step
  | [] => []
  | n :: ns => n.steps groups mode ++ stepsOfAll groups mode ns

def stepsOfAny (groups : GroupWidths) (mode : Mode) : List (List Node) → List (List Step)
  | [] => []
  | b :: bs => stepsOfAll groups mode b :: stepsOfAny groups mode bs

end

/-- The code that a sequence of steps has to start with, if that is known; `after` is that of what
follows. -/
def codeAhead (after : Option Nat) : List Step → Option Nat
  | [] => after
  | .one t :: _ => t.code?
  | _ => none

end Excerpt.Pattern
