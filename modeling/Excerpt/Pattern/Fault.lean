import Excerpt.Number.Integer
import Excerpt.Text.Quoted
import Excerpt.Pattern.Syntax

/-!
Why a pattern cannot be read.
-/

namespace Excerpt.Pattern

inductive Problem where
  | danglingBackslash
  | badEscape (escape : Text)
  | incompleteEscape (escape : Text)
  | octalTooLarge (escape : Text)
  | missingBrace
  | missing (what : String)
  | unterminatedName (stop : Char)
  | unknownCharacter (name : Text)
  | openGroup
  | sameLookbehind
  | noSuchGroup (group : Nat)
  | groupZero
  | badGroupName (name : Text)
  | unknownGroupName (name : Text)
  | groupNameTaken (name : Text) (group earlier : Nat)
  | unterminatedClass
  | badRange (lo hi : Text)
  | nothingToRepeat
  | repeatedRepeat
  | repeatOrder
  | endOfPattern
  | unknownExtension (extension : Text)
  | unterminatedComment
  | unterminatedGroup
  | thirdBranch
  | lateFlags
  | unknownFlag
  | missingFlag
  | missingFlagEnd
  | missingColon
  | localeFlag
  | clashingFlags
  | fixedFlagOff
  | globalFlagOn
  | globalFlagOff
  | flagOnAndOff
  | unbalanced
  deriving DecidableEq, Repr

inductive Fault where
  | malformed (problem : Problem) (position : Nat)
  | longLookbehind
  | openLookbehind
  | templateLoop (greed : Greed)
  | repetitionTooLarge
  | tooManyDigits (e : TooManyDigits)
  | asciiAndUnicode
  deriving DecidableEq, Repr

def Problem.message : Problem → String
  | danglingBackslash => "bad escape (end of pattern)"
  | badEscape e => "bad escape " ++ String.ofList e
  | incompleteEscape e => "incomplete escape " ++ String.ofList e
  | octalTooLarge e => "octal escape value " ++ String.ofList e ++ " outside of range 0-0o377"
  | missingBrace => "missing \x7b"
  | missing what => "missing " ++ what
  | unterminatedName stop => "missing " ++ String.ofList [stop] ++ ", unterminated name"
  | unknownCharacter name => "undefined character name " ++ String.ofList (Text.quoted name)
  | openGroup => "cannot refer to an open group"
  | sameLookbehind => "cannot refer to group defined in the same lookbehind subpattern"
  | noSuchGroup g => "invalid group reference " ++ toString g
  | groupZero => "bad group number"
  | badGroupName name => "bad character in group name " ++ String.ofList (Text.quoted name)
  | unknownGroupName name => "unknown group name " ++ String.ofList (Text.quoted name)
  | groupNameTaken name g earlier =>
    "redefinition of group name " ++ String.ofList (Text.quoted name) ++
      " as group " ++ toString g ++ "; was group " ++ toString earlier
  | unterminatedClass => "unterminated character set"
  | badRange lo hi => "bad character range " ++ String.ofList (lo ++ '-' :: hi)
  | nothingToRepeat => "nothing to repeat"
  | repeatedRepeat => "multiple repeat"
  | repeatOrder => "min repeat greater than max repeat"
  | endOfPattern => "unexpected end of pattern"
  | unknownExtension e => "unknown extension ?" ++ String.ofList e
  | unterminatedComment => "missing ), unterminated comment"
  | unterminatedGroup => "missing ), unterminated subpattern"
  | thirdBranch => "conditional backref with more than two branches"
  | lateFlags => "global flags not at the start of the expression"
  | unknownFlag => "unknown flag"
  | missingFlag => "missing flag"
  | missingFlagEnd => "missing -, : or )"
  | missingColon => "missing :"
  | localeFlag => "bad inline flags: cannot use 'L' flag with a str pattern"
  | clashingFlags => "bad inline flags: flags 'a', 'u' and 'L' are incompatible"
  | fixedFlagOff => "bad inline flags: cannot turn off flags 'a', 'u' and 'L'"
  | globalFlagOn => "bad inline flags: cannot turn on global flag"
  | globalFlagOff => "bad inline flags: cannot turn off global flag"
  | flagOnAndOff => "bad inline flags: flag turned on and off"
  | unbalanced => "unbalanced parenthesis"

def Greed.loopName : Greed → String
  | greedy => "MAX_REPEAT"
  | lazy => "MIN_REPEAT"
  | possessive => "POSSESSIVE_REPEAT"

/-- Where a position is: counted through the pattern, and by line in a pattern of several lines. -/
def place (pattern : Text) (position : Nat) : String :=
  let before := pattern.take position
  let row := before.count '\n' + 1
  let column := (before.reverse.takeWhile (· != '\n')).length + 1
  " at position " ++ toString position ++
    if pattern.contains '\n' then
      " (line " ++ toString row ++ ", column " ++ toString column ++ ")"
    else ""

def Fault.message (pattern : Text) : Fault → String
  | .malformed problem position => problem.message ++ place pattern position
  | longLookbehind => "invalid SRE code"
  | openLookbehind => "look-behind requires fixed-width pattern"
  | templateLoop greed => "internal: unsupported template operator " ++ greed.loopName
  | repetitionTooLarge => "the repetition number is too large"
  | tooManyDigits e => e.message
  | asciiAndUnicode => "ASCII and UNICODE flags are incompatible"

end Excerpt.Pattern
