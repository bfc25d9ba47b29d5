import Excerpt.Pattern.Lead
import Excerpt.Pattern.Search
import Excerpt.Pattern.Sequence

/-!
Whole patterns: reading one and searching a text for it.
-/

namespace Excerpt

namespace Pattern

mutual

/-- The first fault that nodes have, in the order of the pattern. -/
def Node.findFault? (f : Node → Option Fault) : Node → Option Fault
  | .plain b => findFaultIn? f b
  | .scoped _ b => findFaultIn? f b
  | .capture _ b => findFaultIn? f b
  | .atomic b => findFaultIn? f b
  | .choice bs => findFaultAmong? f bs
  | .loop greed least most b => (f (.loop greed least most b)).or (b.findFault? f)
  | .look behind negated b => (f (.look behind negated b)).or (findFaultIn? f b)
  | .conditional _ yes none => findFaultIn? f yes
  | .conditional _ yes (some no) => (findFaultIn? f yes).or (findFaultIn? f no)
  | .code _ | .otherThan _ | .any | .oneOf .. | .anchor _ | .backref _ => none

def findFaultIn? (f : Node → Option Fault) : List Node → Option Fault
  | [] => none
  | n :: ns => (n.findFault? f).or (findFaultIn? f ns)

def findFaultAmong? (f : Node → Option Fault) : List (List Node) → Option Fault
  | [] => none
  | b :: bs => (findFaultIn? f b).or (findFaultAmong? f bs)

end

/-- What keeps a node from being searched for. -/
def Node.fault? (groups : GroupWidths) (template : Bool) : Node → Option Fault
  | .loop greed .. => if template then some (.templateLoop greed) else none
  | .look true _ b =>
    let w := widthOfAll groups b
    if w.least != w.most then some .openLookbehind else none
  | _ => none

/-- A lookbehind reaches less far back than this. -/
def reachLimit : Nat := 0x80000000

def Node.overreach? (groups : GroupWidths) : Node → Option Fault
  | .look true _ b =>
    if reachLimit ≤ (widthOfAll groups b).least then some .longLookbehind else none
  | _ => none

end Pattern

/-- A pattern that can be searched for: the least width of a match, the test for its first
character, and the steps. -/
structure Pattern where
  least : Nat
  lead : Option Pattern.Test
  steps : List Pattern.Step

namespace Pattern

/-- What may match nothing may start anywhere. -/
def ofNodes (groups : GroupWidths) (mode : Mode) (body : List Node) : Pattern :=
  let least := (widthOfAll groups body).least
  { least
    lead := if least = 0 then none else lead? mode body
    steps := stepsOfAll groups mode body }

def readAll (length : Nat) : Reader Pattern := do
  Reader.checkView
  let mode := Flags.none.mode
  let body := choose (← Reader.branches (4 * length + 8) mode false true true)
  let st ← get
  if st.flags.ascii && st.flags.unicode then throw .asciiAndUnicode
  if !st.rest.isEmpty then Reader.fail .unbalanced 0
  match st.references.find? fun r => st.groups ≤ r.1 with
  | some (g, position) => throw (.malformed (.noSuchGroup g) position)
  | none => pure ()
  let fault := (findFaultIn? (Node.fault? st.widths st.flags.template) body).or
    (findFaultIn? (Node.overreach? st.widths) body)
  match fault with
  | some fault => throw fault
  | none => return ofNodes st.widths st.flags.mode body

/-- Reads a pattern. Case is ignored whatever its flags say, unless a group turns that off. -/
def read (t : Text) : Except Fault Pattern :=
  match (readAll t.length).run ⟨symbols t, 0, Flags.none, 1, [], [], none, []⟩ with
  | .ok (p, _) => .ok p
  | .error e => .error e

/-- The places where a match may start. Where nothing is known of its first character, there must be
room for the least width. -/
def starts (p : Pattern) (input : Input) : List Nat :=
  if input.size < p.least then []
  else
    match p.lead with
    | some t => (List.range input.size).filter (t.holdsAt input)
    | none => List.range (input.size + 1 - (p.least - 1))

/-- Whether a pattern matches somewhere in a text. -/
def isIn (p : Pattern) (t : Text) : Bool :=
  let input := (t.map Char.toNat).toArray
  (p.starts input).any fun i => (runAll input false p.steps .done i ⟨i, #[]⟩).isOk

end Pattern

end Excerpt
