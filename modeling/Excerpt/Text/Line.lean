import Excerpt.Text.Blank

/-!
Lines of a document. A line keeps its body and its ending apart, so that rules about lines can look
at the body alone.
-/

namespace Excerpt

inductive Ending where
  | eof
  | lf
  | cr
  | crlf
  deriving DecidableEq, Repr

def Ending.toText : Ending → Text
  | .eof => []
  | .lf => ['\n']
  | .cr => ['\r']
  | .crlf => ['\r', '\n']

structure Line where
  body : Text
  ending : Ending
  deriving DecidableEq, Repr

def Line.toText (l : Line) : Text := l.body ++ l.ending.toText

def Line.cons (c : Char) (l : Line) : Line := { l with body := c :: l.body }

def Line.isBlank (l : Line) : Bool := l.body.all Text.isBlank

def Line.joined (ls : List Line) : Text := ls.flatMap Line.toText

namespace Text

/-- A line ends at `\n`, `\r\n` or `\r`, and the last one perhaps with the text. -/
def lines : Text → List Line
  | [] => []
  | '\r' :: '\n' :: r => ⟨[], .crlf⟩ :: lines r
  | '\r' :: r => ⟨[], .cr⟩ :: lines r
  | '\n' :: r => ⟨[], .lf⟩ :: lines r
  | c :: r =>
    match lines r with
    | [] => [⟨[c], .eof⟩]
    | l :: ls => l.cons c :: ls

end Text

end Excerpt
