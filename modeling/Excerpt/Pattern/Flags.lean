import Excerpt.Pattern.Class

/-!
Inline flags, and the mode that they leave for a pattern or for a group.
-/

namespace Excerpt.Pattern

/-- Inline flags. -/
structure Flags where
  ignoreCase : Bool
  multiline : Bool
  dotAll : Bool
  verbose : Bool
  ascii : Bool
  unicode : Bool
  template : Bool
  deriving DecidableEq, Repr

namespace Flags

def none : Flags := ⟨false, false, false, false, false, false, false⟩

def union (f g : Flags) : Flags :=
  ⟨f.ignoreCase || g.ignoreCase, f.multiline || g.multiline, f.dotAll || g.dotAll,
    f.verbose || g.verbose, f.ascii || g.ascii, f.unicode || g.unicode, f.template || g.template⟩

def meets (f g : Flags) : Bool :=
  (f.ignoreCase && g.ignoreCase) || (f.multiline && g.multiline) || (f.dotAll && g.dotAll) ||
    (f.verbose && g.verbose) || (f.ascii && g.ascii) || (f.unicode && g.unicode) ||
    (f.template && g.template)

def ofChar? : Char → Option Flags
  | 'i' => some { none with ignoreCase := true }
  | 'm' => some { none with multiline := true }
  | 's' => some { none with dotAll := true }
  | 'x' => some { none with verbose := true }
  | 'a' => some { none with ascii := true }
  | 'u' => some { none with unicode := true }
  | 't' => some { none with template := true }
  | _ => Option.none

def isEmpty (f : Flags) : Bool := f == none

end Flags

/-- The mode inside a group that turns flags on and off. -/
def Mode.change (mode : Mode) (on off : Flags) : Mode where
  ignoreCase := (mode.ignoreCase || on.ignoreCase) && !off.ignoreCase
  multiline := (mode.multiline || on.multiline) && !off.multiline
  dotAll := (mode.dotAll || on.dotAll) && !off.dotAll
  ascii := (mode.ascii || on.ascii) && !on.unicode

/-- The mode of the whole pattern. -/
def Flags.mode (f : Flags) : Mode := ⟨true, f.multiline, f.dotAll, f.ascii⟩

end Excerpt.Pattern
