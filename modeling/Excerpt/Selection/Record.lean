import Excerpt.Selection.Basic

/-!
Table rows as records. A header that comes again keeps its first place and takes its last value.
-/

namespace Excerpt

/-- Cells by header, in the order of the headers. -/
abbrev Record := List (Text × Text)

namespace Record

def put (name value : Text) : Record → Record
  | [] => [(name, value)]
  | (n, v) :: r => if n == name then (n, value) :: r else (n, v) :: put name value r

/-- The record of a row; cells that are missing are empty. -/
def fill (record : Record) : List Text → List Text → Record
  | [], _ => record
  | name :: names, [] => fill (put name [] record) names []
  | name :: names, cell :: cells => fill (put name cell record) names cells

def ofRow (header row : List Text) : Record := fill [] header row

end Record

def Token.records (t : Token) : List Record :=
  match t.content with
  | .table header _ rows => rows.map (Record.ofRow header)
  | _ => []

def Selection.records (s : Selection) : List Record :=
  s.passages.flatMap fun p => p.token.records

end Excerpt
