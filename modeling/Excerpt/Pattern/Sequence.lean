import Excerpt.Pattern.Escape
import Excerpt.Pattern.Group
import Excerpt.Pattern.Repeat

/-!
Branches, the sequences that they consist of, and the groups inside them.
-/

namespace Excerpt.Pattern

namespace Reader

/-- Skips what a pattern with comments does not count, up to the end of the line. -/
def skipLine : Nat → Reader Unit
  | 0 => return
  | fuel + 1 => do
    match ← next with
    | none => return
    | some s => if s == ['\n'] then return else skipLine fuel

def isSkipped (s : Text) : Bool :=
  match s with
  | [c] => c == ' ' || ('\t' ≤ c && c ≤ '\r')
  | _ => false

mutual

/-- Branches, parted by bars. `top` says that they are not inside a group. -/
def branches (fuel : Nat) (mode : Mode) (verbose top first : Bool) : Reader (List (List Node)) :=
  match fuel with
  | 0 => return []
  | fuel + 1 => do
    let b ← sequence fuel mode verbose (top && first) []
    if ← accept '|' then
      let flags := (← get).flags
      let rest ← if top then branches fuel flags.mode flags.verbose top false
        else branches fuel mode verbose top false
      return b :: rest
    else return [b]

/-- Items up to a bar or a closing parenthesis; `done` holds those before, the last one first. -/
def sequence (fuel : Nat) (mode : Mode) (verbose first : Bool) (done : List Node) :
    Reader (List Node) :=
  match fuel with
  | 0 => return []
  | fuel + 1 => do
    let finish : Reader (List Node) := return dissolve done.reverse
    let start := (← get).pos
    match ← peek with
    | none => finish
    | some s =>
      if s == ['|'] || s == [')'] then finish
      else
        discard next
        let go := sequence fuel mode verbose first
        if verbose && isSkipped s then go done
        else if verbose && s == ['#'] then
          skipLine ((← get).rest.length + 1)
          go done
        else
          match s with
          | ['\\', c] => go ((← escape c) :: done)
          | ['.'] => go (.any :: done)
          | ['^'] => go (.anchor .lineStart :: done)
          | ['$'] => go (.anchor .lineEnd :: done)
          | ['['] => go ((← readClass) :: done)
          | ['('] =>
            match ← groupKind start with
            | .nothing => go done
            | .node n => go (n :: done)
            | .flagsForAll =>
              if !first || !done.isEmpty then throw (.malformed .lateFlags start)
              let flags := (← get).flags
              sequence fuel flags.mode flags.verbose first done
            | kind => go ((← group fuel mode verbose start kind) :: done)
          | [c] =>
            if c == '?' || c == '*' || c == '+' || c == '{' then
              match ← readBounds c with
              | none => go (.code c.toNat :: done)
              | some (least, most) =>
                match done with
                | [] => throw (.malformed .nothingToRepeat start)
                | item :: earlier =>
                  if item.isAnchor then throw (.malformed .nothingToRepeat start)
                  if item.isLoop then throw (.malformed .repeatedRepeat start)
                  go (.loop (← readGreed) least most item :: earlier)
            else go (.code c.toNat :: done)
          | _ => go done

/-- What a group holds, and the parenthesis that closes it. -/
def group (fuel : Nat) (mode : Mode) (verbose : Bool) (start : Nat) (kind : GroupKind) :
    Reader Node :=
  match fuel with
  | 0 => return .any
  | fuel + 1 => do
    let close : Reader Unit := do
      unless ← accept ')' do throw (.malformed .unterminatedGroup start)
    match kind with
    | .conditional g =>
      let yes ← sequence fuel mode verbose false []
      if ← accept '|' then
        let no ← sequence fuel mode verbose false []
        if (← peek) == some ['|'] then fail .thirdBranch 0
        close
        return .conditional g yes (some no)
      else
        close
        return .conditional g yes none
    | .look behind negated =>
      let outer := (← get).lookbehind
      if behind && outer.isNone then
        modify fun st => { st with lookbehind := some st.groups }
      let body := choose (← branches fuel mode verbose false false)
      if behind && outer.isNone then modify fun st => { st with lookbehind := none }
      close
      return .look behind negated body
    | .changed on off =>
      let body := choose
        (← branches fuel (mode.change on off) ((verbose || on.verbose) && !off.verbose) false false)
      close
      return if on.isEmpty && off.isEmpty then .plain body else .scoped (mode.change on off) body
    | .capture name =>
      let g ← addGroup name
      let body := choose (← branches fuel mode verbose false false)
      close
      modify fun st => { st with widths := (g, widthOfAll st.widths body) :: st.widths }
      return .capture g body
    | .atomic =>
      let body := choose (← branches fuel mode verbose false false)
      close
      return .atomic body
    | _ =>
      let body := choose (← branches fuel mode verbose false false)
      close
      return .plain body

end

end Reader

end Excerpt.Pattern
