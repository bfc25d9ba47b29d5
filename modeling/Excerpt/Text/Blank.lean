import Excerpt.Text.Basic

/-!
White space and trimming.
-/

namespace Excerpt.Text

def blanks : List Nat := [
  0x9, 0xA, 0xB, 0xC, 0xD, 0x1C, 0x1D, 0x1E, 0x1F, 0x20, 0x85, 0xA0, 0x1680,
  0x2000, 0x2001, 0x2002, 0x2003, 0x2004, 0x2005, 0x2006, 0x2007, 0x2008, 0x2009, 0x200A,
  0x2028, 0x2029, 0x202F, 0x205F, 0x3000]

def isBlankCode (n : Nat) : Bool := blanks.contains n

def isBlank (c : Char) : Bool := isBlankCode c.toNat

/-- A space or a tab, the only characters that indent a line. -/
def isGap (c : Char) : Bool := c == ' ' || c == '\t'

def dropEndWhile (p : Char → Bool) (t : Text) : Text := (t.reverse.dropWhile p).reverse

def stripEnd (t : Text) : Text := dropEndWhile isBlank t

def strip (t : Text) : Text := stripEnd (t.dropWhile isBlank)

def allBlank (t : Text) : Bool := t.all isBlank

def firstWord (t : Text) : Text := (t.dropWhile isBlank).takeWhile fun c => !isBlank c

end Excerpt.Text
