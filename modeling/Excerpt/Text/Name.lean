import Excerpt.Text.Name.Ancient
import Excerpt.Text.Name.Arrow
import Excerpt.Text.Name.Brahmi
import Excerpt.Text.Name.Cuneiform
import Excerpt.Text.Name.Dingbat
import Excerpt.Text.Name.Further
import Excerpt.Text.Name.Game
import Excerpt.Text.Name.Glagolitic
import Excerpt.Text.Name.Greek
import Excerpt.Text.Name.Hangul
import Excerpt.Text.Name.Hieroglyph
import Excerpt.Text.Name.Indic
import Excerpt.Text.Name.Jamo
import Excerpt.Text.Name.Khmer
import Excerpt.Text.Name.Latin
import Excerpt.Text.Name.Mark
import Excerpt.Text.Name.Mathematical
import Excerpt.Text.Name.Modern
import Excerpt.Text.Name.Music
import Excerpt.Text.Name.Operator
import Excerpt.Text.Name.Phonetic
import Excerpt.Text.Name.Pictograph
import Excerpt.Text.Name.Presentation
import Excerpt.Text.Name.Radical
import Excerpt.Text.Name.Semitic
import Excerpt.Text.Name.SignWriting
import Excerpt.Text.Name.Syllabic
import Excerpt.Text.Name.Tangut
import Excerpt.Text.Name.Thai
import Excerpt.Text.Name.Yi

/-!
Characters by name. Most names are listed; those of Hangul syllables and of ideographs follow rules.
-/

namespace Excerpt.Text

namespace Name

def tables : List (List Series) := [
  latin, greek, semitic, indic, thai, jamo, syllabic, khmer, phonetic, mark, operator, dingbat,
  arrow, glagolitic, radical, yi, presentation, ancient, brahmi, cuneiform, hieroglyph, tangut,
  music, mathematical, signWriting, modern, game, pictograph, further]

def codings : List Coding := [
  ⟨"CJK COMPATIBILITY IDEOGRAPH-", false, [
    (0xF900, 0xFA6D), (0xFA70, 0xFAD9), (0x2F800, 0x2FA1D)]⟩,
  ⟨"KHITAN SMALL SCRIPT CHARACTER-", false, [(0x18B00, 0x18CD5)]⟩,
  ⟨"NUSHU CHARACTER-", false, [(0x1B170, 0x1B2FB)]⟩]

def unified : Coding := ⟨"CJK UNIFIED IDEOGRAPH-", true, [
  (0x3400, 0x4DBF), (0x4E00, 0x9FFF), (0x20000, 0x2A6DF), (0x2A700, 0x2B738), (0x2B740, 0x2B81D),
  (0x2B820, 0x2CEA1), (0x2CEB0, 0x2EBE0), (0x30000, 0x3134A)]⟩

/-- The character with a name in capitals. -/
def listed? (name : Text) : Option Nat :=
  (tables.findSome? (·.findSome? (·.code? name))).or
    ((numberings.findSome? (·.code? name)).or (codings.findSome? (·.code? name)))

end Name

open Name in
/-- The character with a name. Small letters stand for capitals, but not in the names of Hangul
syllables and of unified ideographs. -/
def codeNamed? (name : Text) : Option Nat :=
  match after? "HANGUL SYLLABLE " name with
  | some spelling => syllable? spelling
  | none => (unified.code? name).or (listed? (name.map Char.toUpper))

end Excerpt.Text
