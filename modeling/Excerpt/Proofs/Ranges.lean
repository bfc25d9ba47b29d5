import Excerpt.Proofs.Scanning

/-!
A list read by the ranges of its items, and a document read block by block. The marker that a range
starts with was seen when the range was found, so each item finds it again.
-/

namespace Excerpt

namespace Scan

variable {ls rest : List Line} {l : Line} {i j : Nat}

/-- The range of each item, from its first line to the one behind it, and the position behind the list.
The item that is read starts at `start`, and `indent` is what a line needs to belong to it. -/
def bounds (ls : List Line) (kind : Char) (indent start j : Nat) :
    Except Fault (List (Nat × Nat) × Nat) :=
  if j < ls.length then do
    let l ← entry ls j
    if l.isBlank then
      let k ← blanks ls j
      if k = ls.length then return ([(start, j)], j)
      else
        let next ← entry ls k
        if indent ≤ Text.columns next.body ||
            ((Marker.read? next.body).any (·.bullet.kind == kind) && !isRule next.body) then
          if j < k then bounds ls kind indent start k else throw (.standstill j)
        else return ([(start, j)], j)
    else if indent ≤ Text.columns l.body then bounds ls kind indent start (j + 1)
    else if isRule l.body then return ([(start, j)], j)
    else match Marker.read? l.body with
    | some m =>
      if m.bullet.kind != kind then return ([(start, j)], j)
      else
        let (more, stop) ← bounds ls kind m.contentIndent j (j + 1)
        return ((start, j) :: more, stop)
    | none =>
      if ← interrupts ls j then return ([(start, j)], j) else bounds ls kind indent start (j + 1)
  else return ([(start, j)], j)
termination_by ls.length - j

theorem bounds_of_isBlank {kind : Char} {indent start : Nat} (h : ls.drop j = l :: rest)
    (hb : l.isBlank = true) :
    bounds ls kind indent start j =
      if Extent.resumes kind indent (rest.dropWhile Line.isBlank) then
        bounds ls kind indent start (j + 1 + Extent.space rest)
      else .ok ([(start, j)], j) := by
  have hblanks : blanks ls j = .ok (j + 1 + Extent.space rest) := by
    simp [blanks_eq h, Extent.space, hb, Nat.add_assoc, Nat.add_comm 1]
  have hdrop : ls.drop (j + 1 + Extent.space rest) = rest.dropWhile Line.isBlank := by
    rw [← List.drop_drop, drop_succ h, Extent.drop_space]
  rw [bounds, if_pos (lt_of_drop h), entry_of_drop h, ok_bind, if_pos hb, hblanks, ok_bind]
  cases hnext : rest.dropWhile Line.isBlank with
  | nil =>
    have hlength := congrArg List.length h
    have hspace := Extent.space_le rest
    have hend := List.drop_eq_nil_iff.mp (hdrop.trans hnext)
    simp only [List.length_drop, List.length_cons] at hlength
    rw [if_pos (by omega)]
    rfl
  | cons m ms =>
    have hmore : j < j + 1 + Extent.space rest := by omega
    rw [hnext] at hdrop
    rw [if_neg (Nat.ne_of_lt (lt_of_drop hdrop)), entry_of_drop hdrop, ok_bind, if_pos hmore]
    rfl

/-- Behind blank lines a list goes on as it does behind each of them. -/
theorem bounds_succ {kind : Char} {indent start : Nat} (h : ls.drop j = l :: rest)
    (hb : l.isBlank = true)
    (hres : Extent.resumes kind indent (rest.dropWhile Line.isBlank) = true) :
    bounds ls kind indent start j = bounds ls kind indent start (j + 1) := by
  rw [bounds_of_isBlank h hb, if_pos hres]
  have hrest := drop_succ h
  cases rest with
  | nil => rfl
  | cons m ms =>
    by_cases hm : m.isBlank
    · have hspace : j + 1 + Extent.space (m :: ms) = j + 1 + 1 + Extent.space ms := by
        simp [Extent.space, hm]
        omega
      rw [List.dropWhile_cons_of_pos hm] at hres
      rw [bounds_of_isBlank hrest hm, if_pos hres, hspace]
    · simp [Extent.space, hm]

theorem bounds_of_text {kind : Char} {indent start : Nat} (h : ls.drop j = l :: rest)
    (hb : l.isBlank = false) :
    bounds ls kind indent start j =
      if indent ≤ Text.columns l.body then bounds ls kind indent start (j + 1)
      else if isRule l.body then .ok ([(start, j)], j)
      else match Marker.read? l.body with
      | some m =>
        if m.bullet.kind != kind then .ok ([(start, j)], j)
        else do
          let (more, stop) ← bounds ls kind m.contentIndent j (j + 1)
          return ((start, j) :: more, stop)
      | none =>
        if l.interrupts rest then .ok ([(start, j)], j) else bounds ls kind indent start (j + 1) := by
  rw [bounds, if_pos (lt_of_drop h), entry_of_drop h, ok_bind, if_neg (by simp [hb]),
    interrupts_eq h]
  rfl

/-- The lines of the items of a list from a position on, behind those that the item there has. -/
def itemLines (kind : Char) (indent : Nat) (own rest : List Line) : List (List Line) :=
  let (more, others) := splitItems (rest.zip (Extent.list kind indent rest))
  (own ++ more) :: others.map fun x => x.1 :: x.2

/-- The items from a position on are found without a fault, and are those that the list has. -/
def FindsItems (ls : List Line) (kind : Char) (indent start j : Nat) (rest : List Line) : Prop :=
  ∃ bs, bounds ls kind indent start j = .ok (bs, j + (Extent.list kind indent rest).length) ∧
    bs.map (fun b => between ls b.1 b.2) = itemLines kind indent (between ls start j) rest

theorem FindsItems.of_stop {kind : Char} {indent start : Nat}
    (hlist : Extent.list kind indent rest = [])
    (hbounds : bounds ls kind indent start j = .ok ([(start, j)], j)) :
    FindsItems ls kind indent start j rest :=
  ⟨[(start, j)], by simp [hlist, hbounds], by simp [itemLines, hlist, splitItems]⟩

theorem FindsItems.of_text {kind : Char} {indent start : Nat} (hstart : start ≤ j)
    (h : ls.drop j = l :: rest)
    (hlist : Extent.list kind indent (l :: rest) = false :: Extent.list kind indent rest)
    (hbounds : bounds ls kind indent start j = bounds ls kind indent start (j + 1))
    (hrest : FindsItems ls kind indent start (j + 1) rest) :
    FindsItems ls kind indent start j (l :: rest) := by
  obtain ⟨bs, hbs, hlines⟩ := hrest
  refine ⟨bs, ?_, ?_⟩
  · rw [hbounds, hbs, hlist, List.length_cons, Nat.add_assoc, Nat.add_comm 1]
  · rw [hlines, itemLines, itemLines, hlist, between_concat hstart h]
    simp [splitItems]

theorem FindsItems.of_marker {kind : Char} {indent start : Nat} {m : Marker}
    (h : ls.drop j = l :: rest)
    (hlist : Extent.list kind indent (l :: rest) = true :: Extent.list kind m.contentIndent rest)
    (hbounds : bounds ls kind indent start j = do
      let (more, stop) ← bounds ls kind m.contentIndent j (j + 1)
      return ((start, j) :: more, stop))
    (hrest : FindsItems ls kind m.contentIndent j (j + 1) rest) :
    FindsItems ls kind indent start j (l :: rest) := by
  obtain ⟨bs, hbs, hlines⟩ := hrest
  refine ⟨(start, j) :: bs, ?_, ?_⟩
  · simp [hbounds, hbs, hlist, Nat.add_assoc, Nat.add_comm 1]
  · rw [List.map_cons, hlines, itemLines, itemLines, hlist, between_concat (Nat.le_refl j) h]
    simp [splitItems, between]

theorem findsItems {kind : Char} :
    ∀ {indent start j : Nat}, start ≤ j → ls.drop j = rest →
      FindsItems ls kind indent start j rest := by
  induction rest with
  | nil =>
    intro indent start j _ h
    refine .of_stop rfl ?_
    rw [bounds, if_neg (not_lt_of_drop h)]
    rfl
  | cons l rest ih =>
    intro indent start j hstart h
    -- a line goes to the item that has started, unless it ends the list or starts an item of its own
    have hnext (indent : Nat) : FindsItems ls kind indent start (j + 1) rest :=
      ih (Nat.le_succ_of_le hstart) (drop_succ h)
    by_cases hb : l.isBlank
    · cases hres : Extent.resumes kind indent (rest.dropWhile Line.isBlank) with
      | true =>
        exact .of_text hstart h (by simp [Extent.list, hb, hres]) (bounds_succ h hb hres)
          (hnext indent)
      | false =>
        exact .of_stop (by simp [Extent.list, hb, hres]) (by simp [bounds_of_isBlank h hb, hres])
    have hstep := @bounds_of_text ls rest l j kind indent start h (by simpa using hb)
    by_cases hindent : indent ≤ Text.columns l.body
    · exact .of_text hstart h (by simp [Extent.list, hb, hindent]) (by rw [hstep, if_pos hindent])
        (hnext indent)
    by_cases hrule : isRule l.body
    · exact .of_stop (by simp [Extent.list, hb, hindent, hrule]) (by simp [hstep, hindent, hrule])
    cases hm : Marker.read? l.body with
    | none =>
      by_cases hcut : l.interrupts rest
      · exact .of_stop (by simp [Extent.list, hb, hindent, hrule, hm, hcut])
          (by simp [hstep, hindent, hrule, hm, hcut])
      · exact .of_text hstart h (by simp [Extent.list, hb, hindent, hrule, hm, hcut])
          (by simp [hstep, hindent, hrule, hm, hcut]) (hnext indent)
    | some m =>
      by_cases hkind : m.bullet.kind = kind
      · exact .of_marker (m := m) h (by simp [Extent.list, hb, hindent, hrule, hm, hkind])
          (by simp [hstep, hindent, hrule, hm, hkind]) (ih (Nat.le_succ j) (drop_succ h))
      · exact .of_stop (by simp [Extent.list, hb, hindent, hrule, hm, hkind])
          (by simp [hstep, hindent, hrule, hm, hkind])

/-- An item, whose first line must have the marker that it starts with. -/
def item (ls : List Line) (start stop : Nat) : Except Fault Token := do
  let l ← entry ls start
  let m ← found l.body (Marker.read? l.body)
  let texts ← (between ls (start + 1) stop).mapM fun l =>
    if m.contentIndent ≤ Text.columns l.body then dropColumns m.contentIndent l.body
    else return l.stripped
  let (checked, text) := readCheckbox (Text.strip (Text.unlines (m.content :: texts)))
  return .mk (Line.joined (between ls start stop)) (.item checked text)

theorem entry_of_between {own : List Line} (h : between ls i j = l :: own) :
    entry ls i = .ok l := by
  have hget : (ls.take j)[i]? = some l := by
    rw [← List.head?_drop]
    exact congrArg List.head? h
  rw [List.getElem?_take, Option.ite_none_right_eq_some] at hget
  rw [entry, hget.2]

theorem item_eq {own : List Line} {m : Marker} (h : between ls i j = l :: own)
    (hm : Marker.read? l.body = some m) : item ls i j = .ok (Token.ofItem l own) := by
  have hown : between ls (i + 1) j = own := drop_succ h
  have htext (x : Line) : (if m.contentIndent ≤ Text.columns x.body then
        dropColumns m.contentIndent x.body else return x.stripped) =
      .ok (if m.contentIndent ≤ Text.columns x.body then
        Text.dropColumns m.contentIndent x.body else x.stripped) := by
    rw [dropColumns_eq]
    split <;> rfl
  rw [item, entry_of_between h, ok_bind, hm, found, ok_bind, hown, mapM_ok fun x _ => htext x,
    ok_bind, h, Token.ofItem, hm]
  rfl

example : item [⟨['a'], .eof⟩] 0 1 = .error (.shape ['a']) := rfl

theorem items_eq {bs : List (Nat × Nat)} {ps : List (Line × List Line)}
    (hlines : bs.map (fun b => between ls b.1 b.2) = ps.map fun x => x.1 :: x.2)
    (hmarker : ∀ x ∈ ps, ∃ m, Marker.read? x.1.body = some m) :
    (bs.mapM fun b => item ls b.1 b.2) = .ok (ps.map fun x => Token.ofItem x.1 x.2) := by
  induction bs generalizing ps with
  | nil =>
    obtain rfl : ps = [] := by simpa using hlines.symm
    rfl
  | cons b bs ih =>
    cases ps with
    | nil => simp at hlines
    | cons x ps =>
      obtain ⟨hfirst, hrest⟩ := List.cons.inj hlines
      rw [List.forall_mem_cons] at hmarker
      obtain ⟨⟨m, hm⟩, hmarker⟩ := hmarker
      rw [List.mapM_cons, item_eq hfirst hm, ih hrest hmarker]
      rfl

def list (ls : List Line) (i : Nat) : Except Fault (Nat × Token) := do
  let l ← entry ls i
  let m ← found l.body (Marker.read? l.body)
  let (bs, j) ← bounds ls m.bullet.kind m.contentIndent i (i + 1)
  let items ← bs.mapM fun b => item ls b.1 b.2
  return (j, .mk (Line.joined (between ls i j)) (.list (← ordinal? m l.body) items))

/-- The ranges of the items of a list hold the lines of its items. -/
theorem exists_bounds_eq (h : ls.drop i = l :: rest) (m : Marker) :
    ∃ bs, bounds ls m.bullet.kind m.contentIndent i (i + 1) =
        .ok (bs, i + 1 + (Opening.list m).extent rest) ∧
      bs.map (fun b => between ls b.1 b.2) =
        ((Opening.list m).parts l rest).map fun x => x.1 :: x.2 := by
  have hown : between ls i (i + 1) = [l] := between_succ h 0
  obtain ⟨bs, hbounds, hlines⟩ :=
    @findsItems ls rest m.bullet.kind m.contentIndent i (i + 1) (Nat.le_succ i) (drop_succ h)
  exact ⟨bs, hbounds, by simp [hlines, hown, itemLines, Opening.parts]⟩

theorem exists_marker_of_bounds (h : ls.drop i = l :: rest) {m : Marker}
    (hm : Marker.read? l.body = some m) {bs : List (Nat × Nat)} {stop : Nat}
    (hbounds : bounds ls m.bullet.kind m.contentIndent i (i + 1) = .ok (bs, stop)) {b : Nat × Nat}
    (hb : b ∈ bs) : ∃ x k, entry ls b.1 = .ok x ∧ Marker.read? x.body = some k := by
  obtain ⟨bs', hbounds', hlines⟩ := exists_bounds_eq h m
  obtain ⟨rfl, -⟩ : bs = bs' ∧ _ := by simpa using hbounds.symm.trans hbounds'
  have hmem := List.mem_map_of_mem hb (f := fun b => between ls b.1 b.2)
  rw [hlines] at hmem
  obtain ⟨x, hx, hxs⟩ := List.mem_map.mp hmem
  obtain ⟨k, hk, -⟩ := Opening.marker_of_mem_parts hm hx
  exact ⟨x.1, k, entry_of_between hxs.symm, hk⟩

theorem list_eq (h : ls.drop i = l :: rest) {m : Marker} (hread : Opening.read l rest = .list m) :
    list ls i = .ok (blockAt i l rest) := by
  have hm := Opening.read_list hread
  obtain ⟨bs, hbounds, hlines⟩ := exists_bounds_eq h m
  have hitems := items_eq hlines fun x hx =>
    (Opening.marker_of_mem_parts hm hx).imp fun _ hk => hk.1
  rw [list, entry_of_drop h, ok_bind, hm, found, ok_bind, hbounds, ok_bind, blockAt_eq hread]
  simp only [hitems, ok_bind, between_succ h, ordinal?_eq hm]
  rw [← Opening.parts_take]
  rfl

def block (ls : List Line) (i : Nat) : Except Fault (Nat × Token) := do
  let l ← entry ls i
  if l.isBlank then space ls i
  else
    let (opens, x) ← tryOpen {} l.body
    if opens then fenced ls i x
    else if isIndented l.body then indented ls i
    else match Heading.hashed? l.body with
    | some (d, t) => return (i + 1, .mk l.toText (.heading (some d) t))
    | none =>
      if isRule l.body then return (i + 1, .mk l.toText .rule)
      else if (quoted? l.body).isSome then quote ls i
      else if (Marker.read? l.body).isSome then list ls i
      else match ← tableHead? ls i with
      | some (header, align) => table ls i header align
      | none => paragraph ls i

theorem block_eq (h : ls.drop i = l :: rest) : block ls i = .ok (blockAt i l rest) := by
  rw [block, entry_of_drop h, ok_bind]
  by_cases hb : l.isBlank
  · rw [if_pos hb, space_eq h (Opening.read_of_isBlank hb rest)]
  rw [if_neg hb, tryOpen_eq, ok_bind, FenceContext.tryOpen]
  cases hopen : Fence.opening? l.body with
  | some x =>
    obtain ⟨f, info⟩ := x
    exact fenced_eq h hopen
  | none =>
    change (if isIndented l.body then indented ls i else _) = _
    by_cases hindent : isIndented l.body
    · rw [if_pos hindent, indented_eq h (by simp [Opening.read, hb, hopen, hindent])]
    rw [if_neg hindent]
    cases hhash : Heading.hashed? l.body with
    | some x =>
      obtain ⟨d, t⟩ := x
      have hread : Opening.read l rest = .heading d t := by
        simp [Opening.read, hb, hopen, hindent, hhash]
      rw [blockAt_of_extent hread rfl]
      rfl
    | none =>
      dsimp only
      by_cases hrule : isRule l.body
      · have hread : Opening.read l rest = .rule := by
          simp [Opening.read, hb, hopen, hindent, hhash, hrule]
        rw [if_pos hrule, blockAt_of_extent hread rfl]
        rfl
      by_cases hquote : (quoted? l.body).isSome
      · rw [if_neg hrule, if_pos hquote,
          quote_eq h (by simp [Opening.read, hb, hopen, hindent, hhash, hrule, hquote])]
      rw [if_neg hrule, if_neg hquote]
      cases hm : Marker.read? l.body with
      | some m =>
        exact list_eq h (m := m) (by simp [Opening.read, hb, hopen, hindent, hhash, hrule, hquote, hm])
      | none =>
        rw [tableHead?_eq h]
        cases htable : tableAt? l rest with
        | some x =>
          obtain ⟨header, align⟩ := x
          exact table_eq h
            (by simp [Opening.read, hb, hopen, hindent, hhash, hrule, hquote, hm, htable])
        | none =>
          exact paragraph_eq h
            (by simp [Opening.read, hb, hopen, hindent, hhash, hrule, hquote, hm, htable])

def blocks (ls : List Line) (i : Nat) : Except Fault (List Token) :=
  if i < ls.length then do
    let (j, t) ← block ls i
    if i < j then return t :: (← blocks ls j) else throw (.standstill i)
  else return []
termination_by ls.length - i

theorem blocks_eq (ls : List Line) (i : Nat) : blocks ls i = .ok (Token.blocks (ls.drop i)) := by
  induction hn : ls.length - i using Nat.strong_induction_on generalizing i with
  | _ n ih =>
    cases h : ls.drop i with
    | nil =>
      rw [blocks, if_neg (not_lt_of_drop h), Token.blocks_nil]
      rfl
    | cons l rest =>
      have hi := lt_of_drop h
      have hstop : i < i + 1 + Token.reach l rest := by omega
      have hrest := ih _ (by omega) (i + 1 + Token.reach l rest) rfl
      rw [← List.drop_drop, drop_succ h] at hrest
      rw [blocks, if_pos hi, block_eq h, blockAt, ok_bind, Token.blocks_cons]
      simp only [if_pos hstop, hrest]
      rfl

def document (source : Text) : Except Fault (List Token) := blocks (Text.lines source) 0

/-- No step fails on any document. At each line a block is found, a fence that opens has its shape, and
a marker has its number and starts a list whose ranges all start with markers. -/
theorem document_eq_ok (source : Text) :
    let ls := Text.lines source
    (∀ i l rest, ls.drop i = l :: rest →
      block ls i = .ok (i + 1 + Token.reach l rest, Token.first l rest) ∧
      (∀ x, tryOpen {} l.body = .ok (true, x) →
        ∃ s word, Fence.shape? l.body = some s ∧ infoWord (Text.strip s.info) = .ok word) ∧
      ∀ m, Marker.read? l.body = some m →
        ordinal? m l.body = .ok m.bullet.number? ∧
        ∃ bs stop, bounds ls m.bullet.kind m.contentIndent i (i + 1) = .ok (bs, stop) ∧
          ∀ b ∈ bs, ∃ x k, entry ls b.1 = .ok x ∧ Marker.read? x.body = some k) ∧
    document source = .ok (Token.ofText source) := by
  intro ls
  refine ⟨fun i l rest h => ⟨block_eq h, fun x hx => ?_, fun m hm => ⟨ordinal?_eq hm, ?_⟩⟩,
    blocks_eq ls 0⟩
  · obtain ⟨s, hs⟩ := exists_shape?_of_tryOpen hx
    exact ⟨s, _, hs, infoWord_eq s.info⟩
  · obtain ⟨bs, hbounds, -⟩ := exists_bounds_eq h m
    exact ⟨bs, _, hbounds, fun b hb => exists_marker_of_bounds h hm hbounds hb⟩

theorem document_eq_ok_mixed :
    let source := "\u0663. a\n\n\u0664. b\n~~~ c d".toList
    (∃ t, block (Text.lines source) 0 = .ok (3, t)) ∧
      (∃ t, block (Text.lines source) 3 = .ok (4, t)) ∧
      (document source).map (fun ts => ts.map Token.kind) = .ok [.list, .code] := by
  intro source
  let fence : Line := ⟨"~~~ c d".toList, .eof⟩
  let more : List Line := [⟨[], .lf⟩, ⟨"\u0664. b".toList, .lf⟩, fence]
  have hlist : (Text.lines source).drop 0 = ⟨"\u0663. a".toList, .lf⟩ :: more := by decide +kernel
  have hfence : (Text.lines source).drop 3 = fence :: [] := by decide +kernel
  have hkinds : (Token.ofText source).map Token.kind = [.list, .code] := by decide +kernel
  have hreach : 0 + 1 + Token.reach ⟨"\u0663. a".toList, .lf⟩ more = 3 := by decide +kernel
  have hreach' : 3 + 1 + Token.reach fence [] = 4 := by decide +kernel
  obtain ⟨hblock, hdocument⟩ := document_eq_ok source
  refine ⟨⟨_, hreach ▸ (hblock 0 _ _ hlist).1⟩, ⟨_, hreach' ▸ (hblock 3 _ _ hfence).1⟩, ?_⟩
  rw [hdocument, ← hkinds]
  rfl

end Scan

end Excerpt
