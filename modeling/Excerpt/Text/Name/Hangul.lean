import Excerpt.Text.Name.Series

/-!
Names of Hangul syllables. Such a name is spelled from the letters of the syllable: one in front,
a vowel, and one behind; those in front and behind may be missing.
-/

namespace Excerpt.Text.Name

def frontLetters : List String := [
  "G", "GG", "N", "D", "DD", "R", "M", "B", "BB", "S", "SS", "", "J", "JJ", "C", "K", "T", "P", "H"]

def vowels : List String := [
  "A", "AE", "YA", "YAE", "EO", "E", "YEO", "YE", "O", "WA", "WAE", "OE", "YO", "U", "WEO", "WE",
  "WI", "YU", "EU", "YI", "I"]

def backLetters : List String := [
  "", "G", "GG", "GS", "N", "NJ", "NH", "D", "L", "LG", "LM", "LB", "LS", "LT", "LP", "LH", "M",
  "B", "BS", "S", "SS", "NG", "J", "C", "K", "T", "P", "H"]

def firstSyllable : Nat := 0xAC00

/-- The longest of some letters that a text starts with: its index and its spelling. -/
def longestStart? (letters : List String) (t : Text) : Option (Nat × String) :=
  (letters.zipIdx.filter fun e => e.1.toList.isPrefixOf t).foldl longer none
where
  longer : Option (Nat × String) → String × Nat → Option (Nat × String)
    | some best, (letter, i) =>
      if best.2.length < letter.length then some (i, letter) else some best
    | none, (letter, i) => some (i, letter)

/-- The syllable with a spelling; every letter is taken as long as it can be. -/
def syllable? (t : Text) : Option Nat := do
  let (front, f) ← longestStart? frontLetters t
  let t := t.drop f.length
  let (vowel, v) ← longestStart? vowels t
  let t := t.drop v.length
  let (back, b) ← longestStart? backLetters t
  if b.toList == t then
    some (firstSyllable + (front * vowels.length + vowel) * backLetters.length + back)
  else none

end Excerpt.Text.Name
