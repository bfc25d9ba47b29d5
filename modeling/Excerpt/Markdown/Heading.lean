import Excerpt.Text.Blank

/-!
Lines that make a heading, a rule or a quote.
-/

namespace Excerpt

/-- What a line holds behind at most three spaces. -/
def unindented? (line : Text) : Option Text :=
  if (line.takeWhile (· == ' ')).length ≤ 3 then some (line.dropWhile (· == ' ')) else none

namespace Heading

/-- Removes a closing run of hashes, which must be all of the text or stand behind a gap. -/
def dropClosing (t : Text) : Text :=
  match Text.dropEndWhile (· == '#') t with
  | [] => []
  | u => if u.getLast?.any Text.isGap then Text.dropEndWhile Text.isGap u else t

/-- The depth and the text of a heading written with one to six hashes. -/
def hashed? (line : Text) : Option (Nat × Text) :=
  match unindented? line with
  | none => none
  | some t =>
    let depth := (t.takeWhile (· == '#')).length
    let r := t.dropWhile (· == '#')
    if 1 ≤ depth && depth ≤ 6 && (r.isEmpty || r.head?.any Text.isGap) then
      some (depth, Text.strip (dropClosing (Text.dropEndWhile Text.isGap (r.dropWhile Text.isGap))))
    else none

/-- The depth that a line of equals signs or dashes gives to the text above it. -/
def underline? (line : Text) : Option Nat :=
  match unindented? line with
  | some (c :: r) =>
    if (c == '=' || c == '-') && ((c :: r).dropWhile (· == c)).all Text.isGap then
      some (if c == '=' then 1 else 2)
    else none
  | _ => none

end Heading

/-- A rule: three or more stars, dashes or underscores, with gaps behind any of them. -/
def isRule (line : Text) : Bool :=
  match unindented? line with
  | some (c :: r) =>
    (c == '*' || c == '-' || c == '_') && (c :: r).all (fun d => d == c || Text.isGap d) &&
      3 ≤ (c :: r).count c
  | _ => false

/-- What a quoted line holds behind its mark. -/
def quoted? (line : Text) : Option Text :=
  match unindented? line with
  | some ('>' :: ' ' :: r) => some r
  | some ('>' :: r) => some r
  | _ => none

end Excerpt
