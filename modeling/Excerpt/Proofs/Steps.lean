import Excerpt.Proofs.Fences
import Excerpt.Proofs.Numerals
import Excerpt.Proofs.Rows

/-!
A line read by positions. What such a reading takes for granted is a step of its own, which fails if
it does not hold: a position inside of the text, a pattern that the line matches, digits that are a
number. Each function finds without a fault what the reader of the line finds.
-/

namespace Excerpt

namespace Text

def words (t : Text) : List Text := (t.splitOnP isBlank).filter (!·.isEmpty)

theorem head?_splitOnP (p : Char → Bool) (t : Text) :
    (t.splitOnP p).head? = some (t.takeWhile (!p ·)) := by
  induction t with
  | nil => simp
  | cons c r ih =>
    rw [List.splitOnP_cons_eq_if_modifyHead]
    by_cases hc : p c
    · simp [hc]
    · obtain ⟨us, hus⟩ := List.head?_eq_some_iff.mp ih
      simp [hc, hus]

theorem head?_words {t : Text} (hne : t ≠ []) (h : ∀ c ∈ t.head?, isBlank c = false) :
    (words t).head? = some (firstWord t) := by
  obtain ⟨c, r, rfl⟩ := List.exists_cons_of_ne_nil hne
  have hc : isBlank c = false := h c rfl
  obtain ⟨us, hus⟩ := List.head?_eq_some_iff.mp (head?_splitOnP isBlank r)
  simp [words, firstWord, List.splitOnP_cons_eq_if_modifyHead, hc, hus]

theorem isBlank_eq_false_of_isDigit {c : Char} (h : isDigit c = true) : isBlank c = false := by
  by_contra hb
  have hcodes : ∀ n ∈ blanks, digitOfCode? n = none := by decide
  have hmem : c.toNat ∈ blanks := by simpa [isBlank, isBlankCode] using hb
  simp [isDigit, digit?, hcodes _ hmem] at h

end Text

namespace Numeral

variable {digits : Text} (h : ∀ c ∈ digits, Text.isDigit c = true)
include h

theorem areGroups_of_isDigit (hne : digits ≠ []) (after : Bool) : areGroups after digits = true := by
  have hscore : ∀ c ∈ digits, (c == '_') = false := fun c hc => by
    simpa using Text.ne_of_class (h c hc) (d := '_') (by decide)
  induction digits generalizing after with
  | nil => exact absurd rfl hne
  | cons c r ih =>
    rw [List.forall_mem_cons] at h hscore
    cases r with
    | nil => simp [areGroups, hscore.1, h.1]
    | cons d r =>
      have hrest := ih h.2 (List.cons_ne_nil d r) true hscore.2
      rw [areGroups, hscore.1, h.1, hrest]
      rfl

/-- Digits of any script are read as the number that they make. -/
theorem read?_of_isDigit (hne : digits ≠ []) (hlength : digits.length ≤ digitLimit) :
    read? digits = some (valueOf digits : Int) := by
  have hmargin : ∀ c ∈ digits, isMargin c = false := fun c hc => by
    simp [isMargin, Text.isBlank_eq_false_of_isDigit (h c hc)]
  have hstart : digits.dropWhile isMargin = digits :=
    Text.dropWhile_eq_self fun c hc => hmargin c (List.mem_of_mem_head? hc)
  have hend : Text.dropEndWhile isMargin digits = digits :=
    Text.dropEndWhile_eq_self fun c hc => hmargin c (List.mem_of_mem_getLast? hc)
  have hsign : readSign digits = (false, digits) :=
    readSign_of_isDigit fun c hc => h c (List.mem_of_mem_head? hc)
  have hscore : digits.filter (· != '_') = digits := List.filter_eq_self.mpr fun c hc => by
    simpa using Text.ne_of_class (h c hc) (d := '_') (by decide)
  simp [read?, hstart, hend, hsign, areGroups_of_isDigit h hne, hscore, natOf, hlength, signed]

end Numeral

namespace Marker

/-- The digits of a number as they stand in the line of the marker. -/
def digits? (m : Marker) (line : Text) : Option Text :=
  m.bullet.number?.map fun _ => (line.drop m.indent).take (m.width - 1)

theorem drop_indent {line : Text} {m : Marker} (h : read? line = some m) :
    line.drop m.indent = line.dropWhile (· == ' ') := by
  obtain ⟨r, -, hindent, -⟩ := read?_eq_some h
  conv_lhs => rw [← List.takeWhile_append_dropWhile (p := (· == ' ')) (l := line), hindent]
  exact List.drop_left

theorem read?_digits {line digits : Text} {m : Marker} (h : read? line = some m)
    (hdigits : m.digits? line = some digits) :
    ∃ n, m.bullet.number? = some n ∧ Numeral.read? digits = some (n : Int) := by
  obtain ⟨r, hbullet, -⟩ := read?_eq_some h
  rw [digits?, drop_indent h] at hdigits
  obtain ⟨c, -, -, hsign, -⟩ | ⟨ds, d, hline, hds, ⟨hpos, hle⟩, -, hnumber, hwidth⟩ :=
    Bullet.read?_eq_some hbullet
  · simp [hsign, Bullet.number?] at hdigits
  · obtain rfl : ds = digits := by simpa [hnumber, Bullet.number?, hline, hwidth] using hdigits
    have hlimit : ds.length ≤ Numeral.digitLimit := Nat.le_trans hle (by decide)
    refine ⟨Numeral.valueOf ds, by rw [hnumber]; rfl, ?_⟩
    exact Numeral.read?_of_isDigit hds (List.ne_nil_of_length_pos hpos) hlimit

end Marker

namespace Fence

/-- What the pattern of a fence takes from a line, whatever the columns before it and its info are. -/
structure Shape where
  lead : Text
  run : Text
  info : Text
  deriving DecidableEq, Repr

def shape? (line : Text) : Option Shape :=
  let lead := line.takeWhile Text.isBlank
  match line.dropWhile Text.isBlank with
  | [] => none
  | c :: r =>
    let run := (c :: r).takeWhile (· == c)
    if lead.length ≤ 3 && isMark c && 3 ≤ run.length then
      (onlyLine? ((c :: r).dropWhile (· == c))).map fun info => ⟨lead, run, info⟩
    else none

/-- A line opens a fence if it has the shape of one, unless the columns or the backticks in its info
say otherwise. -/
theorem opening?_eq (line : Text) :
    opening? line = (shape? line).bind fun s => s.run.head?.bind fun c =>
      if 3 < Text.columns s.lead || c == '`' && s.info.contains '`' then none
      else some (⟨c, s.run.length, Text.columns s.lead⟩, s.info) := by
  unfold opening? shape?
  cases line.dropWhile Text.isBlank with
  | nil => rfl
  | cons c r =>
    dsimp only
    cases onlyLine? ((c :: r).dropWhile (· == c)) with
    | none => simp
    | some info =>
      have hrun : (c :: r).takeWhile (· == c) = c :: r.takeWhile (· == c) := by simp
      rw [hrun]
      generalize line.takeWhile Text.isBlank = lead
      by_cases hshape : lead.length ≤ 3 && isMark c && 3 ≤ (c :: r.takeWhile (· == c)).length
      · rw [if_pos hshape]
        simp only [Bool.and_eq_true] at hshape
        by_cases hcolumns : Text.columns lead ≤ 3
        · simp only [hshape, hcolumns]
          simp [Nat.not_lt.mpr hcolumns]
        · simp [hcolumns, Nat.lt_of_not_le hcolumns]
      · rw [if_neg hshape, if_neg fun h => hshape (by grind)]
        rfl

theorem exists_run_of_shape? {line : Text} {s : Shape} (h : shape? line = some s) :
    ∃ c r, s.run = c :: r := by
  unfold shape? at h
  cases hline : line.dropWhile Text.isBlank with
  | nil => simp [hline] at h
  | cons c r =>
    simp only [hline] at h
    split at h
    · obtain ⟨info, -, rfl⟩ := Option.map_eq_some_iff.mp h
      exact ⟨c, r.takeWhile (· == c), by simp⟩
    · contradiction

theorem exists_shape?_of_opening? {line info : Text} {f : Fence} (h : opening? line = some (f, info)) :
    ∃ s, shape? line = some s ∧ s.info = info := by
  rw [opening?_eq, Option.bind_eq_some_iff] at h
  obtain ⟨s, hs, h⟩ := h
  obtain ⟨c, -, h⟩ := Option.bind_eq_some_iff.mp h
  split at h
  · contradiction
  · exact ⟨s, hs, (Prod.mk.inj (Option.some.inj h)).2⟩

end Fence

namespace Heading

/-- The run of signs that underlines the text above it. -/
def underlining? (line : Text) : Option Text :=
  match unindented? line with
  | some (c :: r) =>
    if (c == '=' || c == '-') && ((c :: r).dropWhile (· == c)).all Text.isGap then
      some ((c :: r).takeWhile (· == c))
    else none
  | _ => none

theorem underline?_eq (line : Text) :
    underline? line = (underlining? line).bind fun run =>
      run.head?.map fun c => if c == '=' then 1 else 2 := by
  unfold underline? underlining?
  cases unindented? line with
  | none => rfl
  | some t =>
    cases t with
    | nil => rfl
    | cons c r =>
      dsimp only
      split
      · simp
      · rfl

theorem exists_run_of_underlining? {line run : Text} (h : underlining? line = some run) :
    ∃ c r, run = c :: r := by
  unfold underlining? at h
  split at h
  · rename_i c r _
    obtain ⟨-, hrun⟩ := Option.ite_none_right_eq_some.mp h
    exact ⟨c, r.takeWhile (· == c), by simpa using hrun.symm⟩
  · contradiction

end Heading

namespace Scan

/-- What stops a reading by positions. -/
inductive Fault where
  | place (i : Nat)
  | shape (line : Text)
  | number (digits : Text)
  | standstill (i : Nat)
  deriving DecidableEq, Repr

section Step

variable {α β : Type}

def entry (xs : List α) (i : Nat) : Except Fault α :=
  match xs[i]? with
  | some x => .ok x
  | none => .error (.place i)

/-- What a pattern finds in a line that is taken to match it. -/
def found (line : Text) : Option α → Except Fault α
  | some a => .ok a
  | none => .error (.shape line)

def number (digits : Text) : Except Fault Nat :=
  match Numeral.read? digits with
  | some (.ofNat n) => .ok n
  | _ => .error (.number digits)

@[simp] theorem ok_bind (a : α) (f : α → Except Fault β) : (Except.ok a >>= f) = f a := rfl

@[simp] theorem pure_eq_ok (a : α) : (pure a : Except Fault α) = .ok a := rfl

theorem entry_of_lt {xs : List α} {i : Nat} (h : i < xs.length) : entry xs i = .ok xs[i] := by
  rw [entry, List.getElem?_eq_getElem h]

@[simp] theorem entry_zero (x : α) (xs : List α) : entry (x :: xs) 0 = .ok x := rfl

section Drop

variable {xs rest : List α} {x : α} {i : Nat} (h : xs.drop i = x :: rest)
include h

theorem lt_of_drop : i < xs.length := by
  by_contra hle
  rw [List.drop_eq_nil_of_le (Nat.le_of_not_lt hle)] at h
  cases h

theorem entry_of_drop : entry xs i = .ok x := by
  rw [entry, ← List.head?_drop, h]
  rfl

theorem drop_succ : xs.drop (i + 1) = rest := by
  rw [← List.tail_drop, h]
  rfl

theorem take_succ : xs.take (i + 1) = xs.take i ++ [x] := by
  rw [List.take_add_one, ← List.head?_drop, h]
  rfl

end Drop

theorem not_lt_of_drop {xs : List α} {i : Nat} (h : xs.drop i = []) : ¬ i < xs.length :=
  Nat.not_lt.mpr (List.drop_eq_nil_iff.mp h)

end Step

def ordinal? (m : Marker) (line : Text) : Except Fault (Option Nat) :=
  match m.digits? line with
  | none => return none
  | some digits => do return some (← number digits)

theorem ordinal?_eq {line : Text} {m : Marker} (h : Marker.read? line = some m) :
    ordinal? m line = .ok m.bullet.number? := by
  rw [ordinal?]
  cases hdigits : m.digits? line with
  | none =>
    have hnumber : m.bullet.number? = none := by simpa [Marker.digits?] using hdigits
    rw [hnumber]
    rfl
  | some digits =>
    obtain ⟨n, hn, hread⟩ := Marker.read?_digits h hdigits
    simp [number, hn, hread]

/-- How many backslashes stand right before a position. -/
def backslashes (t : Text) : Nat → Except Fault Nat
  | 0 => return 0
  | i + 1 => do
    let c ← entry t i
    if c == '\\' then return (← backslashes t i) + 1 else return 0

theorem backslashes_eq {t : Text} :
    ∀ {i : Nat}, i ≤ t.length →
      backslashes t i = .ok ((t.take i).reverse.takeWhile (· == '\\')).length := by
  intro i
  induction i with
  | zero => intro _; rfl
  | succ i ih =>
    intro h
    have hi : i < t.length := h
    rw [backslashes, entry_of_lt hi, ih (Nat.le_of_lt hi), List.take_succ_eq_append_getElem hi]
    by_cases hc : t[i] = '\\'
    · simp [hc]
    · simp only [ok_bind, List.reverse_append, hc, beq_iff_eq, if_false]
      simp [hc]

def isEscaped (t : Text) (i : Nat) : Except Fault Bool := do
  return (← backslashes t i) % 2 == 1

theorem isEscaped_eq {t : Text} {i : Nat} (h : i ≤ t.length) :
    isEscaped t i = .ok (Row.escapesNext (t.take i)) := by
  rw [isEscaped, backslashes_eq h]
  rfl

/-- Whether a pipe at a position parts two cells. -/
def cutsAt (t : Text) (i : Nat) : Except Fault Bool := do
  let c ← entry t i
  if c == '|' then return !(← isEscaped t i) else return false

theorem cutsAt_eq {t r : Text} {c : Char} {i : Nat} (h : t.drop i = c :: r) :
    cutsAt t i = .ok (c == '|' && !Row.escapesNext (t.take i)) := by
  rw [cutsAt, entry_of_drop h, isEscaped_eq (Nat.le_of_lt (lt_of_drop h))]
  by_cases hc : c = '|' <;> simp [hc]

/-- The pieces of a row from a position on. The first of them starts at `start`. -/
def piecesFrom (t : Text) (start i : Nat) : Except Fault (List Text) :=
  if i < t.length then do
    if ← cutsAt t i then return (t.take i).drop start :: (← piecesFrom t (i + 1) (i + 1))
    else piecesFrom t start (i + 1)
  else return [t.drop start]
termination_by t.length - i

theorem piecesFrom_eq {t r : Text} :
    ∀ {start i : Nat}, start ≤ i → t.drop i = r →
      piecesFrom t start i =
        .ok ((Row.splitFrom (Row.escapesNext (t.take i)) r).modifyHead ((t.take i).drop start ++ ·)) := by
  induction r with
  | nil =>
    intro start i _ h
    have hi : t.length ≤ i := List.drop_eq_nil_iff.mp h
    rw [piecesFrom, if_neg (not_lt_of_drop h), List.take_of_length_le hi]
    simp [Row.splitFrom]
  | cons c r ih =>
    intro start i hstart h
    have hlt := lt_of_drop h
    rw [piecesFrom, if_pos hlt, cutsAt_eq h, Row.splitFrom_cons, ok_bind]
    by_cases hcut : (c == '|' && !Row.escapesNext (t.take i)) = true
    · have hc : c = '|' := by simp_all
      have hodd : Row.escapesNext (t.take (i + 1)) = false := by
        rw [take_succ h, Row.escapesNext_concat, hc]
        rfl
      obtain ⟨u, us, hu⟩ := List.exists_cons_of_ne_nil (Row.splitFrom_ne_nil false r)
      rw [if_pos hcut, if_pos hcut, ih (Nat.le_refl _) (drop_succ h), hodd, hu]
      simp
    · obtain ⟨u, us, hu⟩ := List.exists_cons_of_ne_nil
        (Row.splitFrom_ne_nil (Row.oddAfter (Row.escapesNext (t.take i)) c) r)
      have hlength : start ≤ (t.take i).length := by
        rw [List.length_take]
        exact Nat.le_min.mpr ⟨hstart, Nat.le_trans hstart (Nat.le_of_lt hlt)⟩
      rw [if_neg hcut, if_neg hcut, ih (Nat.le_succ_of_le hstart) (drop_succ h), take_succ h,
        Row.escapesNext_concat, hu, List.drop_append_of_le_length hlength]
      simp

def closes (t : Text) : Except Fault Bool := do
  if t.getLast? == some '|' then return !(← isEscaped t (t.length - 1)) else return false

theorem closes_eq (t : Text) :
    closes t = .ok (t.getLast? == some '|' && !Row.escapesNext t.dropLast) := by
  rw [closes, isEscaped_eq (Nat.sub_le _ _), ← List.dropLast_eq_take]
  by_cases hlast : t.getLast? = some '|' <;> simp [hlast]

def cells (line : Text) : Except Fault (List Text) := do
  let t := Text.strip line
  let t := if t.head? == some '|' then t.tail else t
  let t := if ← closes t then t.dropLast else t
  return (← piecesFrom t 0 0).map fun c => Row.unescape (Text.strip c)

theorem cells_eq (line : Text) : cells line = .ok (Row.cells line) := by
  have hopen (t : Text) : Row.dropOuterPipes t =
      let u := if t.head? == some '|' then t.tail else t
      if u.getLast? == some '|' && !Row.escapesNext u.dropLast then u.dropLast else u := by
    cases t with
    | nil => rfl
    | cons c r => by_cases hc : c = '|' <;> simp [Row.dropOuterPipes, hc]
  have hpieces (t : Text) : piecesFrom t 0 0 = .ok (Row.splitFrom false t) := by
    obtain ⟨u, us, hu⟩ := List.exists_cons_of_ne_nil (Row.splitFrom_ne_nil false t)
    rw [piecesFrom_eq (Nat.le_refl 0) rfl]
    simp [Row.escapesNext, hu]
  simp only [cells, Row.cells, closes_eq, hpieces, hopen, ok_bind, pure_eq_ok]

/-- Removes leading spaces and tabs, from a position that `n` columns stand before. -/
def dropColumnsFrom (limit n : Nat) (t : Text) (i : Nat) : Except Fault Text :=
  if i < t.length ∧ n < limit then do
    let c ← entry t i
    if c == ' ' then dropColumnsFrom limit (n + 1) t (i + 1)
    else if c == '\t' then dropColumnsFrom limit (Text.afterTab n) t (i + 1)
    else return t.drop i
  else return t.drop i
termination_by t.length - i

theorem dropColumnsFrom_eq {limit : Nat} {t r : Text} :
    ∀ {n i : Nat}, t.drop i = r →
      dropColumnsFrom limit n t i = .ok (Text.dropColumnsFrom limit n r) := by
  induction r with
  | nil =>
    intro n i h
    simp [dropColumnsFrom, not_lt_of_drop h, h, Text.dropColumnsFrom]
  | cons c r ih =>
    intro n i h
    rw [dropColumnsFrom, entry_of_drop h, h]
    have hlt := lt_of_drop h
    have hrest (n : Nat) := @ih n (i + 1) (drop_succ h)
    rcases eq_or_ne c ' ' with rfl | hspace
    · by_cases hn : n < limit <;> simp [hlt, hn, hrest, Text.dropColumnsFrom]
    · rcases eq_or_ne c '\t' with rfl | htab
      · by_cases hn : n < limit <;> simp [hlt, hn, hrest, Text.dropColumnsFrom]
      · simp [hspace, htab, Text.dropColumnsFrom]

def dropColumns (limit : Nat) (t : Text) : Except Fault Text := dropColumnsFrom limit 0 t 0

theorem dropColumns_eq (limit : Nat) (t : Text) :
    dropColumns limit t = .ok (Text.dropColumns limit t) := dropColumnsFrom_eq rfl

def tryOpen (x : FenceContext) (line : Text) : Except Fault (Bool × FenceContext) :=
  if x.inCode then return (false, x)
  else match Fence.shape? line with
  | none => return (false, x)
  | some s => do
    let indent := Text.columns s.lead
    if 3 < indent then return (false, x)
    else if (← entry s.run 0) == '`' && s.info.contains '`' then return (false, x)
    else return (true, ⟨true, some (← entry s.run 0), s.run.length, indent⟩)

theorem tryOpen_eq (x : FenceContext) (line : Text) : tryOpen x line = .ok (x.tryOpen line) := by
  rw [tryOpen, FenceContext.tryOpen, Fence.opening?_eq]
  cases x.inCode with
  | true => rfl
  | false =>
    cases hs : Fence.shape? line with
    | none => rfl
    | some s =>
      obtain ⟨c, r, hrun⟩ := Fence.exists_run_of_shape? hs
      by_cases hcolumns : 3 < Text.columns s.lead
      · simp [hcolumns, hrun]
      · by_cases hinfo : c = '`' ∧ '`' ∈ s.info
        · simp [hcolumns, hrun, hinfo]
        · simp [hcolumns, hrun, hinfo]

def tryClose (x : FenceContext) (line : Text) : Except Fault (Bool × FenceContext) :=
  match x.inCode, x.mark with
  | true, some c => do
    let t := line.dropWhile Text.isGap
    if t.isEmpty then return (false, x)
    else if (← entry t 0) != c then return (false, x)
    else if Fence.closedBy ⟨c, x.size, x.indent⟩ line then return (true, ⟨false, none, 0, 0⟩)
    else return (false, x)
  | _, _ => return (false, x)

theorem tryClose_eq (x : FenceContext) (line : Text) : tryClose x line = .ok (x.tryClose line) := by
  rw [tryClose, FenceContext.tryClose]
  cases x.inCode with
  | false => rfl
  | true =>
    cases x.mark with
    | none => rfl
    | some c =>
      cases line.dropWhile Text.isGap with
      | nil => rfl
      | cons d r =>
        by_cases hd : d = c
        · by_cases hclosed : Fence.closedBy ⟨c, x.size, x.indent⟩ line = true
          · simp [hd, hclosed]
          · simp [hd, hclosed]
        · simp [hd]

/-- The depth that a line gives to the text above it, if it underlines it. -/
def underline? (line : Text) : Except Fault (Option Nat) :=
  match Heading.underlining? line with
  | none => return none
  | some run => do return some (if (← entry run 0) == '=' then 1 else 2)

theorem underline?_eq (line : Text) : underline? line = .ok (Heading.underline? line) := by
  rw [underline?, Heading.underline?_eq]
  cases hrun : Heading.underlining? line with
  | none => rfl
  | some run =>
    obtain ⟨c, r, rfl⟩ := Heading.exists_run_of_underlining? hrun
    rfl

def opensItem (line : Text) : Except Fault Bool :=
  match Marker.read? line with
  | none => return false
  | some m =>
    if m.content.all Text.isBlank then return false
    else do
      match ← ordinal? m line with
      | none => return true
      | some n => return n == 1

theorem opensItem_eq (l : Line) : opensItem l.body = .ok l.opensItem := by
  rw [opensItem, Line.opensItem]
  cases hm : Marker.read? l.body with
  | none => rfl
  | some m =>
    by_cases hcontent : m.content.all Text.isBlank = true
    · simp [hcontent]
    · simp only [hcontent, ordinal?_eq hm, ok_bind]
      cases m.bullet.number? with
      | none => rfl
      | some n => simp

end Scan

end Excerpt
