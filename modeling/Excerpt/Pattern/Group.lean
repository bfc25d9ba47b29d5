import Excerpt.Pattern.Reader

/-!
What stands behind an opening parenthesis: a comment, inline flags, a condition, or the kind of the
group that it opens.
-/

namespace Excerpt.Pattern

namespace Reader

def skipComment (start : Nat) : Nat → Reader Unit
  | 0 => return
  | fuel + 1 => do
    match ← next with
    | none => throw (.malformed .unterminatedComment start)
    | some s => if s == [')'] then return else skipComment start fuel

def isLetterSymbol : Text → Bool
  | [c] => Text.isLetter c
  | _ => false

def flag? : Text → Option (Char × Flags)
  | [c] => if c == 'L' then some (c, Flags.none) else (Flags.ofChar? c).map fun f => (c, f)
  | _ => none

/-- Flags to turn on, from the flag `s`, and the mark behind them. -/
def flagsOn : Nat → Text → Flags → Reader (Flags × Text)
  | 0, s, on => return (on, s)
  | fuel + 1, s, on => do
    match flag? s with
    | none => return (on, s)
    | some (c, f) =>
      if c == 'L' then fail .localeFlag 0
      let on := on.union f
      if (f.ascii || f.unicode) && on.ascii && on.unicode then fail .clashingFlags 0
      match ← next with
      | none => fail .missingFlagEnd 0
      | some s =>
        if s == [')'] || s == ['-'] || s == [':'] then return (on, s)
        else if (flag? s).isSome then flagsOn fuel s on
        else fail (if isLetterSymbol s then .unknownFlag else .missingFlagEnd) s.length

/-- Flags to turn off, up to the colon. -/
def flagsOff : Nat → Text → Flags → Reader Flags
  | 0, _, off => return off
  | fuel + 1, s, off => do
    match flag? s with
    | none => return off
    | some (c, f) =>
      if c == 'L' || f.ascii || f.unicode then fail .fixedFlagOff 0
      let off := off.union f
      match ← next with
      | none => fail .missingColon 0
      | some s =>
        if s == [':'] then return off
        else if (flag? s).isSome then flagsOff fuel s off
        else fail (if isLetterSymbol s then .unknownFlag else .missingColon) s.length

/-- Inline flags, from the symbol behind the question mark. Flags for the whole pattern are noted
and give nothing. -/
def readFlags (s : Text) : Reader (Option (Flags × Flags)) := do
  let fuel := (← get).rest.length + 1
  let (on, mark) ← if s == ['-'] then pure (Flags.none, s) else flagsOn fuel s Flags.none
  if mark == [')'] then
    modify fun st => { st with flags := st.flags.union on }
    return none
  if on.template then fail .globalFlagOn 1
  let off ← if mark == ['-'] then do
      match ← next with
      | none => fail .missingFlag 0
      | some s =>
        if (flag? s).isSome then flagsOff fuel s Flags.none
        else fail (if isLetterSymbol s then .unknownFlag else .missingFlag) s.length
    else pure Flags.none
  if off.template then fail .globalFlagOff 1
  if on.meets off then fail .flagOnAndOff 1
  return some (on, off)

/-- The numbers of groups are below this. -/
def groupLimit : Nat := 1073741823

/-- A group that a condition names, by name or by number. -/
def readCondition : Reader Nat := do
  let name ← readName ')' "group name"
  let back := name.length + 1
  let group ← if Text.isIdentifier name then
      match (← get).names.lookup name with
      | some g => pure g
      | none => fail (.unknownGroupName name) back
    else
      match Numeral.read? name with
      | some (.ofNat 0) => fail .groupZero back
      | some (.ofNat g) => do
        if groupLimit ≤ g then fail (.noSuchGroup g) back
        modify fun st =>
          if (st.references.lookup g).isSome then st
          else { st with references := st.references ++ [(g, st.pos - back)] }
        pure g
      | _ => fail (.badGroupName name) back
  checkLookbehind group
  return group

/-- What kind of group a parenthesis opens. -/
inductive GroupKind where
  | nothing
  | node (n : Node)
  | flagsForAll
  | plain
  | atomic
  | capture (name : Option Text)
  | changed (on off : Flags)
  | look (behind negated : Bool)
  | conditional (group : Nat)

def namedGroup : Reader GroupKind := do
  if ← accept '<' then
    let name ← readName '>' "group name"
    checkName name
    return .capture (some name)
  else if ← accept '=' then
    let name ← readName ')' "group name"
    checkName name
    match (← get).names.lookup name with
    | none => fail (.unknownGroupName name) (name.length + 1)
    | some g =>
      unless ← isComplete g do fail .openGroup (name.length + 1)
      checkLookbehind g
      return .node (.backref g)
  else
    match ← next with
    | none => fail .endOfPattern 0
    | some s => fail (.unknownExtension ('P' :: s)) (s.length + 2)

def lookbehindKind : Reader GroupKind := do
  match ← next with
  | none => fail .endOfPattern 0
  | some s =>
    if s == ['='] then return .look true false
    else if s == ['!'] then return .look true true
    else fail (.unknownExtension ('<' :: s)) (s.length + 2)

/-- The start of a group; its parenthesis stands at `start`. -/
def groupKind (start : Nat) : Reader GroupKind := do
  unless ← accept '?' do return .capture none
  match ← next with
  | none => fail .endOfPattern 0
  | some s =>
    match s with
    | ['P'] => namedGroup
    | [':'] => return .plain
    | ['#'] =>
      skipComment start ((← get).rest.length + 1)
      return .nothing
    | ['='] => return .look false false
    | ['!'] => return .look false true
    | ['<'] => lookbehindKind
    | ['('] => return .conditional (← readCondition)
    | ['>'] => return .atomic
    | _ =>
      if (flag? s).isSome || s == ['-'] then
        match ← readFlags s with
        | none => return .flagsForAll
        | some (on, off) => return .changed on off
      else fail (.unknownExtension s) (s.length + 1)

end Reader

end Excerpt.Pattern
