import Excerpt.Proofs.Items
import Excerpt.Proofs.Steps

/-!
A document read by positions, line by line, from the position where a block starts to the position
behind it. Whatever a step takes for granted on the way holds, at each line that a block can start at,
and the blocks are those of the document.
-/

namespace Excerpt

namespace Scan

variable {ls rest : List Line} {l : Line} {i j : Nat}

def between (ls : List Line) (i j : Nat) : List Line := (ls.take j).drop i

theorem between_add (h : ls.drop i = rest) (n : Nat) : between ls i (i + n) = rest.take n := by
  rw [between, List.drop_take, h, Nat.add_sub_cancel_left]

theorem between_succ (h : ls.drop i = l :: rest) (n : Nat) :
    between ls i (i + 1 + n) = l :: rest.take n := by
  rw [Nat.add_assoc, between_add h, Nat.add_comm, List.take_succ_cons]

theorem between_concat (hij : i ≤ j) (h : ls.drop j = l :: rest) :
    between ls i (j + 1) = between ls i j ++ [l] := by
  have hlength : i ≤ (ls.take j).length := by
    rw [List.length_take]
    exact Nat.le_min.mpr ⟨hij, Nat.le_trans hij (Nat.le_of_lt (lt_of_drop h))⟩
  rw [between, take_succ h, List.drop_append_of_le_length hlength, between]

/-! ### What a line does to the text before it -/

def startsBlock (ls : List Line) (j : Nat) : Except Fault Bool := do
  let l ← entry ls j
  if isIndented l.body then return false
  else if (← tryOpen {} l.body).1 then return true
  else return (Heading.hashed? l.body).isSome || isRule l.body || (quoted? l.body).isSome

theorem tryOpen_fresh (line : Text) :
    (FenceContext.tryOpen {} line).1 = (Fence.opening? line).isSome := by
  rw [FenceContext.tryOpen]
  cases Fence.opening? line <;> rfl

theorem exists_shape?_of_tryOpen {line : Text} {x : FenceContext}
    (h : tryOpen {} line = .ok (true, x)) : ∃ s, Fence.shape? line = some s := by
  have hopens : (Fence.opening? line).isSome = true := by
    rw [tryOpen_eq] at h
    rw [← tryOpen_fresh, Except.ok.inj h]
  obtain ⟨⟨f, info⟩, hopen⟩ := Option.isSome_iff_exists.mp hopens
  exact (Fence.exists_shape?_of_opening? hopen).imp fun _ hs => hs.1

theorem startsBlock_eq (h : ls.drop j = l :: rest) : startsBlock ls j = .ok l.opensBlock := by
  rw [startsBlock, entry_of_drop h, Line.opensBlock, ok_bind, tryOpen_eq, ok_bind, tryOpen_fresh]
  by_cases hindent : isIndented l.body
  · simp [hindent]
  · by_cases hfence : (Fence.opening? l.body).isSome
    · simp [hindent, hfence]
    · simp [hindent, hfence]

def tableHead? (ls : List Line) (i : Nat) :
    Except Fault (Option (List Text × List (Option Align))) := do
  if ls.length ≤ i + 1 then return none
  else
    let first ← entry ls i
    let second ← entry ls (i + 1)
    if !(first.body.contains '|' || second.body.contains '|') then return none
    else if isIndented first.body then return none
    else
      let delimiters ← cells second.body
      if !delimiters.all Align.isDelimiter then return none
      else
        let header ← cells first.body
        if header.length != delimiters.length then return none
        else return some (header, delimiters.map Align.ofDelimiter)

theorem tableHead?_eq (h : ls.drop i = l :: rest) : tableHead? ls i = .ok (tableAt? l rest) := by
  have hrest := drop_succ h
  cases rest with
  | nil =>
    rw [tableHead?, if_pos (List.drop_eq_nil_iff.mp hrest)]
    rfl
  | cons m rest =>
    rw [tableHead?, if_neg (Nat.not_le.mpr (lt_of_drop hrest)), entry_of_drop h, entry_of_drop hrest,
      tableAt?, Excerpt.tableHead?]
    simp only [ok_bind, cells_eq, pure_eq_ok]
    generalize (l.body.contains '|' || m.body.contains '|') = piped
    generalize isIndented l.body = indented
    generalize (Row.cells m.body).all Align.isDelimiter = ruled
    cases piped with
    | false => rfl
    | true =>
      cases indented with
      | true => rfl
      | false =>
        cases ruled with
        | false => rfl
        | true =>
          by_cases hlength : (Row.cells l.body).length = (Row.cells m.body).length <;> simp [hlength]

def interrupts (ls : List Line) (j : Nat) : Except Fault Bool := do
  if ← startsBlock ls j then return true
  else
    let l ← entry ls j
    if isIndented l.body then return false
    else if ← opensItem l.body then return true
    else return (← tableHead? ls j).isSome

theorem interrupts_eq (h : ls.drop j = l :: rest) : interrupts ls j = .ok (l.interrupts rest) := by
  rw [interrupts, startsBlock_eq h, entry_of_drop h, tableHead?_eq h, Line.interrupts]
  simp only [ok_bind, opensItem_eq, pure_eq_ok]
  by_cases hblock : l.opensBlock
  · simp [hblock]
  · by_cases hindent : isIndented l.body
    · simp [hblock, hindent]
    · by_cases hitem : l.opensItem
      · simp [hblock, hindent, hitem]
      · simp [hblock, hindent, hitem]

/-! ### The blocks, each from the position where it starts -/

def blanks (ls : List Line) (j : Nat) : Except Fault Nat :=
  if j < ls.length then do
    if (← entry ls j).isBlank then blanks ls (j + 1) else return j
  else return j
termination_by ls.length - j

theorem blanks_eq : ∀ {j : Nat}, ls.drop j = rest → blanks ls j = .ok (j + Extent.space rest) := by
  induction rest with
  | nil =>
    intro j h
    rw [blanks, if_neg (not_lt_of_drop h)]
    rfl
  | cons l rest ih =>
    intro j h
    rw [blanks, if_pos (lt_of_drop h), entry_of_drop h, ok_bind, ih (drop_succ h)]
    by_cases hb : l.isBlank
    · simp [hb, Extent.space, Nat.add_assoc, Nat.add_comm 1]
    · simp [hb, Extent.space]

/-- The position behind the block that starts with a line at a position, and that block. -/
def blockAt (i : Nat) (l : Line) (rest : List Line) : Nat × Token :=
  (i + 1 + Token.reach l rest, Token.first l rest)

theorem blockAt_eq {o : Opening} (hread : Opening.read l rest = o) :
    blockAt i l rest = (i + 1 + o.extent rest, Token.ofLines l (rest.take (o.extent rest)) o) := by
  rw [blockAt, Token.first, Token.reach, hread]

theorem blockAt_of_extent {o : Opening} (hread : Opening.read l rest = o) (hone : o.extent rest = 0) :
    blockAt i l rest = (i + 1, .mk l.toText (o.content l [])) := by
  rw [blockAt_eq hread, hone]
  simp [Token.ofLines, Line.joined]

def space (ls : List Line) (i : Nat) : Except Fault (Nat × Token) := do
  let j ← blanks ls i
  return (j, .mk (Line.joined (between ls i j)) .space)

theorem space_eq (h : ls.drop i = l :: rest) (hread : Opening.read l rest = .space) :
    space ls i = .ok (blockAt i l rest) := by
  have hb := Opening.read_space hread
  have hspace : Extent.space (l :: rest) = 1 + Extent.space rest := by
    simp [Extent.space, hb, Nat.add_comm]
  rw [space, blanks_eq h, hspace, ok_bind, ← Nat.add_assoc, between_succ h, blockAt_eq hread]
  rfl

/-- The position behind a fenced block, with the one of its closing fence or of the end. -/
def closing (ls : List Line) (x : FenceContext) (j : Nat) : Except Fault (Nat × Nat) :=
  if j < ls.length then do
    let l ← entry ls j
    let (closed, x) ← tryClose x l.body
    if closed then return (j + 1, j) else closing ls x (j + 1)
  else return (j, ls.length)
termination_by ls.length - j

theorem tryClose_inside {f : Fence} (hf : f.IsLawful) (line : Text) :
    (FenceState.inside f).context.tryClose line =
      if f.closedBy line then (true, {}) else (false, (FenceState.inside f).context) := by
  have hcall := FenceContext.call_context (s := .inside f) hf (.closing line)
  rw [FenceContext.call] at hcall
  rw [hcall, FenceState.next?, FenceState.closeBy?]
  by_cases hclosed : f.closedBy line
  · simp only [hclosed, if_true]
    rfl
  · simp [hclosed]

theorem closing_eq {f : Fence} (hf : f.IsLawful) :
    ∀ {j : Nat}, j ≤ ls.length → ls.drop j = rest →
      closing ls (FenceState.inside f).context j =
        .ok (j + Extent.fenced f rest, j + (rest.takeWhile fun l => !f.closedBy l.body).length) := by
  induction rest with
  | nil =>
    intro j hj h
    have hend : ls.length ≤ j := List.drop_eq_nil_iff.mp h
    rw [closing, if_neg (not_lt_of_drop h), Nat.le_antisymm hend hj]
    rfl
  | cons l rest ih =>
    intro j _ h
    rw [closing, if_pos (lt_of_drop h), entry_of_drop h, ok_bind, tryClose_eq, ok_bind,
      tryClose_inside hf, Extent.fenced]
    by_cases hl : f.closedBy l.body
    · simp [hl]
    · simp [hl, ih (lt_of_drop h) (drop_succ h), Nat.add_assoc, Nat.add_comm 1]

def infoWord (info : Text) : Except Fault (Option Text) :=
  if info.isEmpty then return none else do return some (← entry (Text.words info) 0)

theorem infoWord_eq (s : Text) :
    infoWord (Text.strip s) =
      .ok (if (Text.strip s).isEmpty then none else some (Text.firstWord (Text.strip s))) := by
  obtain ⟨hhead, -⟩ := Text.strip_eq_self_iff.mp (Text.strip_strip s)
  rw [infoWord]
  cases hs : Text.strip s with
  | nil => rfl
  | cons c r =>
    rw [hs] at hhead
    obtain ⟨ws, hws⟩ := List.head?_eq_some_iff.mp (Text.head?_words (List.cons_ne_nil c r) hhead)
    rw [hws]
    rfl

theorem mapM_ok {α β : Type} {f : α → Except Fault β} {g : α → β} {xs : List α}
    (h : ∀ x ∈ xs, f x = .ok (g x)) : xs.mapM f = .ok (xs.map g) := by
  induction xs with
  | nil => rfl
  | cons x xs ih =>
    rw [List.forall_mem_cons] at h
    rw [List.mapM_cons, h.1, ih h.2]
    rfl

def fenced (ls : List Line) (i : Nat) (x : FenceContext) : Except Fault (Nat × Token) := do
  let l ← entry ls i
  let s ← found l.body (Fence.shape? l.body)
  let (j, stop) ← closing ls x (i + 1)
  let body ← (between ls (i + 1) stop).mapM fun l => dropColumns x.indent l.body
  let word ← infoWord (Text.strip s.info)
  return (j, .mk (Line.joined (between ls i j)) (.code word (Text.unlines body)))

theorem takeWhile_take_fenced (f : Fence) (ls : List Line) :
    (ls.take (Extent.fenced f ls)).takeWhile (fun l => !f.closedBy l.body) =
      ls.takeWhile fun l => !f.closedBy l.body := by
  induction ls with
  | nil => rfl
  | cons l ls ih => by_cases hl : f.closedBy l.body <;> simp [Extent.fenced, hl, ih]

theorem fenced_eq (h : ls.drop i = l :: rest) {f : Fence} {info : Text}
    (hopen : Fence.opening? l.body = some (f, info)) :
    fenced ls i (FenceState.inside f).context = .ok (blockAt i l rest) := by
  obtain ⟨s, hs, rfl⟩ := Fence.exists_shape?_of_opening? hopen
  have hclosing := closing_eq (Fence.of_opening? hopen).1 (lt_of_drop h) (drop_succ h)
  have hbody : between ls (i + 1) (i + 1 + (rest.takeWhile fun l => !f.closedBy l.body).length) =
      rest.takeWhile fun l => !f.closedBy l.body := by
    rw [between_add (drop_succ h)]
    exact (List.prefix_iff_eq_take.mp (List.takeWhile_prefix _)).symm
  have hlines := mapM_ok fun (l : Line) (_ : l ∈ rest.takeWhile fun l => !f.closedBy l.body) =>
    dropColumns_eq f.indent l.body
  rw [fenced, entry_of_drop h, ok_bind, hs, found, ok_bind, hclosing, ok_bind]
  simp only [FenceState.context, hbody, hlines, ok_bind, infoWord_eq, between_succ h]
  rw [blockAt_eq (Opening.read_of_opening rest hopen), Token.ofLines, Opening.extent, Opening.content,
    takeWhile_take_fenced]
  rfl

/-- The position behind the last indented line, where `last` is the one of the last that was seen. -/
def indentedEnd (ls : List Line) (last j : Nat) : Except Fault Nat :=
  if j < ls.length then do
    let l ← entry ls j
    if l.isBlank then indentedEnd ls last (j + 1)
    else if isIndented l.body then indentedEnd ls j (j + 1)
    else return last + 1
  else return last + 1
termination_by ls.length - j

theorem indentedEnd_eq :
    ∀ {last j : Nat}, ls.drop j = rest →
      indentedEnd ls last j =
        .ok (if Extent.indented rest = 0 then last + 1 else j + Extent.indented rest) := by
  induction rest with
  | nil =>
    intro last j h
    rw [indentedEnd, if_neg (not_lt_of_drop h)]
    rfl
  | cons l rest ih =>
    intro last j h
    rw [indentedEnd, if_pos (lt_of_drop h), entry_of_drop h, ok_bind, ih (drop_succ h),
      ih (drop_succ h), Extent.indented]
    by_cases hb : l.isBlank
    · by_cases hzero : Extent.indented rest = 0
      · simp [hb, hzero]
      · simp [hb, hzero]
        omega
    · by_cases hindent : isIndented l.body
      · by_cases hzero : Extent.indented rest = 0
        · simp [hb, hindent, hzero]
        · simp [hb, hindent, hzero]
          omega
      · simp [hb, hindent]

def indented (ls : List Line) (i : Nat) : Except Fault (Nat × Token) := do
  let j ← indentedEnd ls i i
  let body ← (between ls i j).mapM fun l => dropColumns 4 l.body
  return (j, .mk (Line.joined (between ls i j)) (.code none (Text.unlines body)))

theorem indented_eq (h : ls.drop i = l :: rest) (hread : Opening.read l rest = .indented) :
    indented ls i = .ok (blockAt i l rest) := by
  have hb : l.isBlank = false := by
    by_contra hb
    rw [Opening.read_of_isBlank (by simpa using hb)] at hread
    cases hread
  have hextent : Extent.indented (l :: rest) = 1 + Extent.indented rest := by
    simp [Extent.indented, hb, (Opening.read_indented hread).2, Nat.add_comm]
  rw [indented, indentedEnd_eq h, hextent, if_neg (by omega), ← Nat.add_assoc, ok_bind,
    mapM_ok fun l _ => dropColumns_eq 4 l.body, ok_bind, between_succ h, blockAt_eq hread]
  rfl

def quoteEnd (ls : List Line) (j : Nat) : Except Fault Nat :=
  if j < ls.length then do
    let l ← entry ls j
    if l.isBlank then return j
    else if (quoted? l.body).isSome then quoteEnd ls (j + 1)
    else if ← interrupts ls j then return j
    else quoteEnd ls (j + 1)
  else return j
termination_by ls.length - j

theorem quoteEnd_eq : ∀ {j : Nat}, ls.drop j = rest → quoteEnd ls j = .ok (j + Extent.quote rest) := by
  induction rest with
  | nil =>
    intro j h
    rw [quoteEnd, if_neg (not_lt_of_drop h)]
    rfl
  | cons l rest ih =>
    intro j h
    rw [quoteEnd, if_pos (lt_of_drop h), entry_of_drop h, ok_bind, interrupts_eq h, ok_bind,
      ih (drop_succ h), Extent.quote, Nat.add_assoc, Nat.add_comm 1]
    by_cases hb : l.isBlank
    · simp [hb]
    · by_cases hquoted : (quoted? l.body).isSome
      · simp [hb, hquoted]
      · by_cases hcut : l.interrupts rest <;> simp [hb, hquoted, hcut]

def quote (ls : List Line) (i : Nat) : Except Fault (Nat × Token) := do
  let j ← quoteEnd ls (i + 1)
  let texts := (between ls i j).map fun l => (quoted? l.body).getD l.stripped
  return (j, .mk (Line.joined (between ls i j)) (.quote (Text.strip (Text.unlines texts))))

theorem quote_eq (h : ls.drop i = l :: rest) (hread : Opening.read l rest = .quote) :
    quote ls i = .ok (blockAt i l rest) := by
  rw [quote, quoteEnd_eq (drop_succ h), ok_bind, between_succ h, blockAt_eq hread]
  rfl

def rows (ls : List Line) (width j : Nat) : Except Fault (List (List Text) × Nat) :=
  if j < ls.length then do
    let l ← entry ls j
    if l.isBlank then return ([], j)
    else if ← startsBlock ls j then return ([], j)
    else if ← opensItem l.body then return ([], j)
    else
      let row ← cells l.body
      let (more, stop) ← rows ls width (j + 1)
      return (row.take width :: more, stop)
  else return ([], j)
termination_by ls.length - j

theorem rows_eq (width : Nat) :
    ∀ {j : Nat}, ls.drop j = rest →
      rows ls width j =
        .ok ((rest.take (Extent.rows rest)).map fun l => (Row.cells l.body).take width,
          j + Extent.rows rest) := by
  induction rest with
  | nil =>
    intro j h
    rw [rows, if_neg (not_lt_of_drop h)]
    rfl
  | cons l rest ih =>
    intro j h
    rw [rows, if_pos (lt_of_drop h), entry_of_drop h, ok_bind, startsBlock_eq h, ok_bind, opensItem_eq,
      ok_bind, cells_eq, ok_bind, ih (drop_succ h), ok_bind, Extent.rows]
    by_cases hb : l.isBlank
    · simp [hb]
    · by_cases hblock : l.opensBlock
      · simp [hb, hblock]
      · by_cases hitem : l.opensItem
        · simp [hb, hblock, hitem]
        · simp [hb, hblock, hitem]
          omega

def table (ls : List Line) (i : Nat) (header : List Text) (align : List (Option Align)) :
    Except Fault (Nat × Token) := do
  let (rows, j) ← rows ls header.length (i + 2)
  return (j, .mk (Line.joined (between ls i j)) (.table header align rows))

theorem table_eq (h : ls.drop i = l :: rest) {header : List Text} {align : List (Option Align)}
    (hread : Opening.read l rest = .table header align) :
    table ls i header align = .ok (blockAt i l rest) := by
  have hhead := Opening.read_table hread
  cases rest with
  | nil => cases hhead
  | cons m rest =>
    have hstop : i + 2 + Extent.rows rest = i + 1 + (Extent.rows rest + 1) := by omega
    rw [table, rows_eq header.length (drop_succ (drop_succ h)), ok_bind, hstop]
    simp only [between_succ h]
    rw [blockAt_eq hread]
    rfl

/-- The position behind the text of a paragraph, with the depth that a line there gives to it. -/
def paragraphEnd (ls : List Line) (j : Nat) : Except Fault (Nat × Option Nat) :=
  if j < ls.length then do
    let l ← entry ls j
    if l.isBlank then return (j, none)
    else match ← underline? l.body with
    | some d => return (j, some d)
    | none => if ← interrupts ls j then return (j, none) else paragraphEnd ls (j + 1)
  else return (j, none)
termination_by ls.length - j

/-- The text of a paragraph ends before the line that gives it a depth. -/
theorem exists_paragraphEnd_eq :
    ∀ {j : Nat}, ls.drop j = rest →
      ∃ n, paragraphEnd ls j = .ok (j + n, (Extent.paragraph rest).2) ∧
        (Extent.paragraph rest).1 = n + (Extent.paragraph rest).2.toList.length := by
  induction rest with
  | nil =>
    intro j h
    rw [paragraphEnd, if_neg (not_lt_of_drop h)]
    exact ⟨0, rfl, rfl⟩
  | cons l rest ih =>
    intro j h
    obtain ⟨n, hend, hn⟩ := ih (drop_succ h)
    rw [paragraphEnd, if_pos (lt_of_drop h), entry_of_drop h, ok_bind, underline?_eq, ok_bind,
      interrupts_eq h, ok_bind, hend, Extent.paragraph]
    by_cases hb : l.isBlank
    · exact ⟨0, by simp [hb]⟩
    · cases hdepth : Heading.underline? l.body with
      | some d => exact ⟨0, by simp [hb]⟩
      | none =>
        by_cases hcut : l.interrupts rest
        · exact ⟨0, by simp [hb, hcut]⟩
        · refine ⟨n + 1, ?_, ?_⟩
          · simp [hb, hcut, Nat.add_assoc, Nat.add_comm 1]
          · simp [hb, hcut, hn]
            omega

def paragraph (ls : List Line) (i : Nat) : Except Fault (Nat × Token) := do
  let (j, depth) ← paragraphEnd ls (i + 1)
  let text := Text.unlines ((between ls i j).map Line.stripped)
  match depth with
  | some d => return (j + 1, .mk (Line.joined (between ls i (j + 1))) (.heading (some d) text))
  | none => return (j, .mk (Line.joined (between ls i j)) (.paragraph text))

theorem paragraph_eq (h : ls.drop i = l :: rest) (hread : Opening.read l rest = .paragraph) :
    paragraph ls i = .ok (blockAt i l rest) := by
  obtain ⟨n, hend, hn⟩ := exists_paragraphEnd_eq (drop_succ h)
  rw [paragraph, hend, ok_bind, blockAt_eq hread, Token.ofLines, Opening.content, Opening.extent,
    Extent.paragraph_take]
  cases hdepth : (Extent.paragraph rest).2 with
  | none =>
    rw [hdepth] at hn
    simp [between_succ h, hn]
  | some d =>
    rw [hdepth] at hn
    have hn : (Extent.paragraph rest).1 = n + 1 := hn
    have hlt : n < rest.length := by
      have hle := Extent.paragraph_le rest
      omega
    have hlast : (rest.take (n + 1)).dropLast = rest.take n := by
      rw [List.take_succ_eq_append_getElem hlt, List.dropLast_concat]
    have hstop : i + 1 + n + 1 = i + 1 + (n + 1) := Nat.add_assoc (i + 1) n 1
    simp only [between_succ h, hn, hlast, hstop]
    rfl

end Scan

end Excerpt
