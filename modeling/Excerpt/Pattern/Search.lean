import Excerpt.Pattern.Step

/-!
Search by backtracking. A step is tried at a place of the text, with what has to follow it. Also an
attempt that fails leaves a trail behind: the place that was looked at last, and the bounds of
groups.
-/

namespace Excerpt.Pattern

/-- What an attempt leaves behind. The group `g` starts at bound `2 * g - 2` and ends at the one
after it. -/
structure Trail where
  place : Nat
  bounds : Array (Option Nat)
  deriving Repr

namespace Trail

def mark (s : Trail) (i p : Nat) : Trail :=
  { s with bounds :=
      if i < s.bounds.size then s.bounds.setIfInBounds i (some p)
      else (s.bounds ++ Array.replicate (i - s.bounds.size) none).push (some p) }

/-- Takes groups back. Outside of loops the bounds that were there before keep their values. -/
def restore (s : Trail) (inLoop : Bool) (before : Array (Option Nat)) : Trail :=
  if inLoop then { s with bounds := before }
  else if s.bounds.size ≤ before.size then s
  else { s with bounds := s.bounds.extract 0 before.size }

/-- The part of the text that a group holds, if it is complete. -/
def group? (s : Trail) (g : Nat) : Option (Nat × Nat) :=
  match s.bounds[2 * g - 2]?, s.bounds[2 * g - 1]? with
  | some (some a), some (some b) => if a ≤ b then some (a, b) else none
  | _, _ => none

end Trail

/-- A trail to the end of what was looked for, or one to nowhere. -/
abbrev Attempt := Except Trail Trail

/-- What has to follow: the code that it starts with, if that is known, and the search for it. -/
structure Tail where
  code? : Option Nat
  run : Nat → Trail → Attempt

/-- Nothing has to follow. -/
def Tail.done : Tail := ⟨none, fun p s => .ok { s with place := p }⟩

/-- A tail of which nothing is known. -/
def Tail.hidden (k : Tail) : Tail := { k with code? := none }

/-- A text as code points. -/
abbrev Input := Array Nat

def isWordAt (input : Input) (ascii : Bool) (i : Nat) : Bool :=
  input[i]?.any fun n => Category.word.holds ascii n

def isFeedAt (input : Input) (i : Nat) : Bool := input[i]? == some 10

def Anchor.holds (input : Input) (mode : Mode) (i : Nat) : Anchor → Bool
  | textStart => i == 0
  | lineStart => i == 0 || (mode.multiline && isFeedAt input (i - 1))
  | textEnd => i == input.size
  | lineEnd =>
    i == input.size || (isFeedAt input i && (mode.multiline || i + 1 == input.size))
  | boundary => !input.isEmpty && atEdge
  | noBoundary => !input.isEmpty && !atEdge
where
  atEdge : Bool := (0 < i && isWordAt input mode.ascii (i - 1)) != isWordAt input mode.ascii i

def Test.holdsAt (input : Input) (t : Test) (i : Nat) : Bool :=
  if h : i < input.size then t.holds input[i] else false

/-- Whether what follows can start at a place, as far as its first code tells. -/
def Tail.mayStart (input : Input) (k : Tail) (i : Nat) : Bool :=
  match k.code? with
  | some n => input[i]? == some n
  | none => true

/-- What a group held must come again. -/
def isRepeated (input : Input) (mode : Mode) (span : Nat × Nat) (p : Nat) : Bool :=
  let length := span.2 - span.1
  p + length ≤ input.size &&
    (List.range length).all fun i =>
      match input[span.1 + i]?, input[p + i]? with
      | some m, some n => mode.agree m n
      | _, _ => false

/-- Whether a loop may go round once more. -/
def below (count : Nat) : Option Nat → Bool
  | none => true
  | some most => count < most

/-- The end of the characters from a place on that pass a test, at most so many. -/
def passing (input : Input) (t : Test) : Nat → Nat → Nat
  | 0, p => p
  | room + 1, p => if t.holdsAt input p then passing input t room (p + 1) else p

/-- Tries what follows at `low + extra`, then at the places before it down to `low`. -/
def descend (input : Input) (inLoop : Bool) (k : Tail) (low : Nat) : Nat → Trail → Attempt
  | extra, s =>
    let attempt := if k.mayStart input (low + extra) then
        k.run (low + extra) { s with place := low + extra }
      else .error s
    match attempt, extra with
    | .ok r, _ => .ok r
    | .error r, 0 => .error (r.restore inLoop s.bounds)
    | .error r, extra + 1 => descend input inLoop k low extra (r.restore inLoop s.bounds)

/-- Tries what follows at a place, then behind the next character, and so on; `more` is the number
of characters that may still be passed. -/
def ascend (input : Input) (inLoop : Bool) (t : Test) (k : Tail) : Nat → Nat → Trail → Attempt
  | more, p, s =>
    match k.run p { s with place := p } with
    | .ok r => .ok r
    | .error r =>
      let passes := t.holdsAt input p
      let last := if passes && t.isSearched then p + 1 else p
      let s := { r.restore inLoop s.bounds with place := last }
      match more with
      | 0 => .error s
      | more + 1 => if passes then ascend input inLoop t k more (p + 1) s else .error s

/-- A loop over single characters. -/
def runStretch (input : Input) (inLoop : Bool) (greed : Greed) (least : Nat) (most : Option Nat)
    (t : Test) (k : Tail) (p : Nat) (s : Trail) : Attempt :=
  let room := input.size - p
  if room < least then .error s
  else
    let limit := match greed with
      | .lazy => least
      | _ => (most.map (min room)).getD room
    let stop := passing input t limit p
    let s := { s with place := if t.isSearched then stop else p }
    if stop < p + least then .error s
    else
      match greed with
      | .greedy => descend input inLoop k (p + least) (stop - (p + least)) s
      | .lazy => ascend input inLoop t k ((most.map (· - least)).getD room) stop s
      | .possessive => k.run stop s

/-- As many rounds as possible. Beyond the least number a round that moved nowhere is the last. -/
def greedily (body : Tail → Nat → Trail → Attempt) (least : Nat) (most : Option Nat) (k : Tail) :
    Nat → Nat → Option Nat → Nat → Trail → Attempt
  | 0, _, _, _, s => .error s
  | fuel + 1, count, last, p, s =>
    let round (last : Option Nat) : Attempt :=
      body ⟨none, greedily body least most k fuel (count + 1) last⟩ p { s with place := p }
    let leave (r : Trail) : Attempt := .error { r with place := p }
    if count < least then
      match round last with
      | .ok r => .ok r
      | .error r => leave r
    else
      let attempt := if below count most && last != some p then round (some p) else .error s
      match attempt with
      | .ok r => .ok r
      | .error _ =>
        match k.run p { s with place := p } with
        | .ok r => .ok r
        | .error r => leave r

/-- As few rounds as possible. -/
def lazily (inLoop : Bool) (body : Tail → Nat → Trail → Attempt) (least : Nat)
    (most : Option Nat) (k : Tail) : Nat → Nat → Option Nat → Nat → Trail → Attempt
  | 0, _, _, _, s => .error s
  | fuel + 1, count, last, p, s =>
    let round (last : Option Nat) (s : Trail) : Attempt :=
      match body ⟨none, lazily inLoop body least most k fuel (count + 1) last⟩ p s with
      | .ok r => .ok r
      | .error r => .error { r with place := p }
    let s := { s with place := p }
    if count < least then round last s
    else
      match k.run p s with
      | .ok r => .ok r
      | .error r =>
        let s := { r.restore inLoop s.bounds with place := p }
        if below count most && last != some p then round (some p) s else .error s

/-- As many rounds as possible, none of which is taken back. The search goes on from the place that
was looked at last, be it in a round that failed. -/
def possessively (body : Tail → Nat → Trail → Attempt) (least : Nat) (most : Option Nat) :
    Nat → Nat → Option Nat → Trail → Attempt
  | 0, _, _, s => .error s
  | fuel + 1, count, last, s =>
    if count < least then
      match body .done s.place s with
      | .ok r => possessively body least most fuel (count + 1) none r
      | .error r => .error r
    else if below count most && last != some s.place then
      match body .done s.place s with
      | .ok r => possessively body least most fuel (count + 1) (some s.place) r
      | .error r => .ok { r with bounds := s.bounds }
    else .ok s

/-- More rounds than this come to no new place. -/
def roundLimit (input : Input) (least : Nat) : Option Nat → Nat
  | some most => most + 2
  | none => least + (input.size + 2) * (input.size + 2)

mutual

def Step.run (input : Input) (inLoop : Bool) : Step → Tail → Nat → Trail → Attempt
  | .one t, k, p, s => if t.holdsAt input p then k.run (p + 1) s else .error s
  | .stand mode a, k, p, s => if a.holds input mode p then k.run p s else .error s
  | .capture g body, k, p, s =>
    let close : Tail := ⟨none, fun q r => k.run q (r.mark (2 * g - 1) q)⟩
    runAll input inLoop body close p (s.mark (2 * g - 2) p)
  | .atomic body, k, p, s =>
    match runAll input inLoop body .done p { s with place := p } with
    | .ok r => k.run r.place r
    | .error r => .error { r with place := p }
  | .choice branches, k, p, s => runAny input inLoop branches k.hidden p s
  | .stretch greed least most t, k, p, s => runStretch input inLoop greed least most t k p s
  | .loop greed least most body, k, p, s =>
    let rounds := roundLimit input least most
    match greed with
    | .greedy => greedily (runAll input true body) least most k rounds 0 none p s
    | .lazy => lazily inLoop (runAll input true body) least most k rounds 0 none p s
    | .possessive =>
      match possessively (runAll input inLoop body) least most rounds 0 none
          { s with place := p } with
      | .ok r => k.run r.place r
      | .error r => .error { r with place := p }
  | .look back negated body, k, p, s =>
    if p < back then if negated then k.run p s else .error s
    else
      match runAll input inLoop body .done (p - back) { s with place := p - back }, negated with
      | .ok r, false => k.run p r
      | .error r, true => k.run p (r.restore inLoop s.bounds)
      | .ok r, true | .error r, false => .error r
  | .again mode g, k, p, s =>
    match s.group? g with
    | some span =>
      if isRepeated input mode span p then k.run (p + (span.2 - span.1)) s else .error s
    | none => .error s
  | .given g yes no, k, p, s =>
    match s.group? g, no with
    | some _, none => runAll input inLoop yes k p s
    | some _, some _ => runAll input inLoop yes k.hidden p s
    | none, none => k.run p s
    | none, some no => runAll input inLoop no k p s

def runAll (input : Input) (inLoop : Bool) : List Step → Tail → Nat → Trail → Attempt
  | [], k, p, s => k.run p s
  | x :: xs, k, p, s =>
    x.run input inLoop ⟨codeAhead k.code? xs, runAll input inLoop xs k⟩ p s

/-- The branches in turn. One that starts with a character that is not there is passed over. -/
def runAny (input : Input) (inLoop : Bool) : List (List Step) → Tail → Nat → Trail → Attempt
  | [], _, _, s => .error s
  | b :: bs, k, p, s =>
    if b.head?.any (isElsewhere p) then runAny input inLoop bs k p s
    else
      match runAll input inLoop b k p { s with place := p } with
      | .ok r => .ok r
      | .error r => runAny input inLoop bs k p (r.restore inLoop s.bounds)
where
  isElsewhere (p : Nat) : Step → Bool
    | .one t => t.isPlain && !t.holdsAt input p
    | _ => false

end

end Excerpt.Pattern
