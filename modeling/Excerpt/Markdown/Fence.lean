import Excerpt.Text.Blank
import Excerpt.Text.Column

/-!
Code fences. A fence opens with at least three backticks or tildes after at most three columns, and
closes with at least as many of the same character and nothing but blanks behind them.
-/

namespace Excerpt

structure Fence where
  mark : Char
  size : Nat
  indent : Nat
  deriving DecidableEq, Repr

namespace Fence

def isMark (c : Char) : Bool := c == '`' || c == '~'

/-- The text before a final line feed, if it is a single line. -/
def onlyLine? (t : Text) : Option Text :=
  let body := if t.getLast? == some '\n' then t.dropLast else t
  if body.contains '\n' then none else some body

/-- The fence that a line opens, with its info text. Backticks cannot enclose a backtick. -/
def opening? (line : Text) : Option (Fence × Text) :=
  let lead := line.takeWhile Text.isBlank
  let indent := Text.columns lead
  match line.dropWhile Text.isBlank with
  | [] => none
  | c :: r =>
    let run := (c :: r).takeWhile (· == c)
    if lead.length ≤ 3 && indent ≤ 3 && isMark c && 3 ≤ run.length then
      match onlyLine? ((c :: r).dropWhile (· == c)) with
      | none => none
      | some info =>
        if c == '`' && info.contains '`' then none else some (⟨c, run.length, indent⟩, info)
    else none

def closedBy (f : Fence) (line : Text) : Bool :=
  let t := line.dropWhile Text.isGap
  f.size ≤ (t.takeWhile (· == f.mark)).length &&
    (t.dropWhile (· == f.mark)).all Text.isBlank && Text.columns line ≤ 3

end Fence

/-- Whether a scan is inside a fenced code block. -/
inductive FenceState where
  | outside
  | inside (fence : Fence)
  deriving DecidableEq, Repr

namespace FenceState

/-- The state after a line that may open a fence, if it does. -/
def openBy? (line : Text) : FenceState → Option FenceState
  | outside => (Fence.opening? line).map fun (f, _) => inside f
  | inside _ => none

/-- The state after a line that may close the open fence, if it does. -/
def closeBy? (line : Text) : FenceState → Option FenceState
  | outside => none
  | inside f => if f.closedBy line then some outside else none

end FenceState

/-- What a scan keeps of the fence that it is in. Outside of fences the fields have their defaults. -/
structure FenceContext where
  inCode : Bool := false
  mark : Option Char := none
  size : Nat := 0
  indent : Nat := 0
  deriving DecidableEq, Repr

/-- What a scan asks about a line: whether it opens a fence, or closes the one that is open. -/
inductive FenceCall where
  | opening (line : Text)
  | closing (line : Text)
  deriving DecidableEq, Repr

namespace FenceContext

/-- The answer, with the context after it. -/
def tryOpen (x : FenceContext) (line : Text) : Bool × FenceContext :=
  if x.inCode then (false, x)
  else
    match Fence.opening? line with
    | none => (false, x)
    | some (f, _) => (true, ⟨true, some f.mark, f.size, f.indent⟩)

def tryClose (x : FenceContext) (line : Text) : Bool × FenceContext :=
  match x.inCode, x.mark with
  | true, some c =>
    if (line.dropWhile Text.isGap).head? == some c && Fence.closedBy ⟨c, x.size, x.indent⟩ line then
      (true, ⟨false, none, 0, 0⟩)
    else (false, x)
  | _, _ => (false, x)

def call (x : FenceContext) : FenceCall → Bool × FenceContext
  | .opening line => x.tryOpen line
  | .closing line => x.tryClose line

/-- The answers to calls that are made one after the other, each with the context after it. -/
def trace (x : FenceContext) : List FenceCall → List (Bool × FenceContext)
  | [] => []
  | c :: cs => x.call c :: trace (x.call c).2 cs

end FenceContext

end Excerpt
