import Excerpt.Markdown.Token

/-!
The words of selectors. A scope word stands for sections, the others for single blocks.
-/

namespace Excerpt

inductive Word where
  | heading (depth : Option Nat)
  | paragraph
  | table
  | code
  | list
  | quote
  | rule
  | item
  | scope (depth : Option Nat)
  deriving DecidableEq, Repr

namespace Word

def dictionary : List (String × Word) := [
  ("heading", heading none),
  ("h1", heading (some 1)), ("h2", heading (some 2)), ("h3", heading (some 3)),
  ("h4", heading (some 4)), ("h5", heading (some 5)), ("h6", heading (some 6)),
  ("paragraph", paragraph), ("table", table), ("code", code), ("list", list),
  ("blockquote", quote), ("hr", rule), ("item", item),
  ("section", scope none),
  ("section1", scope (some 1)), ("section2", scope (some 2)), ("section3", scope (some 3)),
  ("section4", scope (some 4)), ("section5", scope (some 5)), ("section6", scope (some 6))]

def named? (name : Text) : Option Word := dictionary.lookup (String.ofList name)

def isScope : Word → Bool
  | scope _ => true
  | _ => false

def depth? : Word → Option Nat
  | heading d | scope d => d
  | _ => none

/-- The kind of token that a word looks for. -/
def kind : Word → Kind
  | heading _ | scope _ => .heading
  | paragraph => .paragraph
  | table => .table
  | code => .code
  | list => .list
  | quote => .quote
  | rule => .rule
  | item => .item

/-- Whether a token is of the kind and the depth that a word asks for. -/
def fits (w : Word) (t : Token) : Bool :=
  t.kind == w.kind && (w.depth?.isNone || t.depth? == w.depth?)

end Word

end Excerpt
