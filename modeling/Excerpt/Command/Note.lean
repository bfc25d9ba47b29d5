import Excerpt.Selection.Replace
import Excerpt.Settings.Options

/-!
Notes on what a run does, for its log.
-/

namespace Excerpt

inductive Note where
  | indexed (blocks characters : Nat)
  | unknownWord (name : Text)
  | opened (name : Text) (sections : Nat)
  | narrowed (name : Text) (passages : Nat)
  | queried (selector : Text) (passages : Nat)
  | replaced (kept all : Nat)
  | read (characters : Nat) (file : Text)
  | selected (selector : Text) (blocks : Nat) (file : Text)
  | untouched (file : Text)
  | wrote (characters : Nat) (file : Text)
  deriving DecidableEq, Repr

namespace Note

def level : Note → Level
  | read .. | selected .. | untouched _ | wrote .. => .info
  | _ => .debug

/-- The part of the program that a note comes from. -/
def origin : Note → String
  | indexed .. => "md_query.lexer"
  | unknownWord _ | opened .. | narrowed .. => "md_query.resolver"
  | queried .. | replaced .. => "md_query.query"
  | read .. | wrote .. => "md_query.filesystem"
  | selected .. | untouched _ => "md_query.cli"

def message : Note → Text
  | indexed n c => s!"Indexed {n} block tokens over {c} characters".toList
  | unknownWord name => "Unknown selector ".toList ++ name.quoted ++ " matches nothing".toList
  | opened name n => "Segment ".toList ++ name.quoted ++ s!" opened {n} sections".toList
  | narrowed name n => "Segment ".toList ++ name.quoted ++ s!" matched {n} ranges".toList
  | queried t n => "Query ".toList ++ t.quoted ++ s!" produced {n} matches".toList
  | replaced kept all => s!"Replaced {kept} of {all} matches".toList
  | read c file => s!"Read {c} characters from ".toList ++ file
  | selected t n file =>
    "Selector ".toList ++ t.quoted ++ s!" matched {n} blocks in ".toList ++ file
  | untouched file => "No matches to replace; ".toList ++ file ++ " left untouched".toList
  | wrote c file => s!"Wrote {c} characters to ".toList ++ file

def line (n : Note) : Text :=
  n.level.name.toList ++ ':' :: n.origin.toList ++ ':' :: n.message ++ ['\n']

/-- The lines of the notes that a level shows. -/
def log (shown : Level) (notes : List Note) : Text :=
  (notes.filter fun n => shown.rank ≤ n.level.rank).flatMap line

/-- The note on taking a document apart. -/
def ofIndex (source : Text) : Note := indexed (Passage.index source).length source.length

/-- The notes on resolving a selector among passages. -/
def ofResolution (ps : List Passage) : List Segment → List Note
  | [] => []
  | s :: ss =>
    match s.word with
    | none => [unknownWord s.name]
    | some (.scope _) =>
      opened s.name (s.select ps).length ::
        if ss.isEmpty then [] else (s.select ps).flatMap fun p => ofResolution p.innerList ss
    | some _ => narrowed s.name (s.select ps).length :: ofResolution (s.select ps) ss

/-- The note on taking a document apart again to look around passages. -/
def ofLookAround (s : Selection) : List Note :=
  if s.passages.isEmpty then [] else [ofIndex s.source]

end Note

end Excerpt
