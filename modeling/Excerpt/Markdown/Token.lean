import Excerpt.Text.Basic
import Excerpt.Markdown.Row

/-!
Block tokens: the source text of a block with what the block says.
-/

namespace Excerpt

inductive Kind where
  | heading
  | paragraph
  | table
  | code
  | list
  | item
  | quote
  | rule
  | space
  deriving DecidableEq, Repr

/-- What a block says. The depth of a heading is unknown only outside documents. -/
inductive Content (ι : Type) where
  | heading (depth : Option Nat) (text : Text)
  | paragraph (text : Text)
  | table (header : List Text) (align : List (Option Align)) (rows : List (List Text))
  | code (info : Option Text) (text : Text)
  | list (start : Option Nat) (items : List ι)
  | item (checked : Option Bool) (text : Text)
  | quote (text : Text)
  | rule
  | space

inductive Token where
  | mk (raw : Text) (content : Content Token)

def Content.kind {ι : Type} : Content ι → Kind
  | heading .. => .heading
  | paragraph .. => .paragraph
  | table .. => .table
  | code .. => .code
  | list .. => .list
  | item .. => .item
  | quote .. => .quote
  | rule => .rule
  | space => .space

namespace Token

def raw : Token → Text
  | mk r _ => r

def content : Token → Content Token
  | mk _ c => c

def kind (t : Token) : Kind := t.content.kind

def isHeading (t : Token) : Bool := t.kind == .heading

def depth? (t : Token) : Option Nat :=
  match t.content with
  | .heading d _ => d
  | _ => none

def items (t : Token) : List Token :=
  match t.content with
  | .list _ is => is
  | _ => []

/-- What a block says, field by field. A field that the kind of the block does not have is left at its
default. -/
structure Fields where
  text : Text := []
  depth : Option Nat := none
  header : List Text := []
  rows : List (List Text) := []
  align : List (Option Align) := []
  items : List Token := []
  ordered : Bool := false
  start : Option Nat := none
  info : Option Text := none
  checked : Option Bool := none

def fields (t : Token) : Fields :=
  match t.content with
  | .heading d s => { text := s, depth := d }
  | .paragraph s | .quote s => { text := s }
  | .table header align rows => { header, align, rows }
  | .code info s => { text := s, info }
  | .list start items => { items, ordered := start.isSome, start }
  | .item checked s => { text := s, checked }
  | .rule | .space => {}

/-- The text that a matcher compares: a table offers its header, and a list, a rule or blank space
offer nothing. -/
def comparable (t : Token) : Text :=
  match t.content with
  | .heading _ s | .paragraph s | .code _ s | .quote s | .item _ s => s
  | .table header _ _ => Text.joinWith [',', ' '] header
  | .list .. | .rule | .space => []

end Token

end Excerpt
