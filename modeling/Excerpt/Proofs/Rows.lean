import Excerpt.Proofs.Subtexts

/-!
Rows that are read and written again. The cells that any line reads as can be written, so reading and
writing are inverse to each other on the cells that can be written.
-/

namespace Excerpt

theorem Text.exists_eq_strip (t : Text) : ∃ pre post, t = pre ++ strip t ++ post ∧
    (∀ c ∈ pre, isBlank c = true) ∧ ∀ c ∈ post, isBlank c = true := by
  let rest := t.dropWhile isBlank
  refine ⟨t.takeWhile isBlank, (rest.reverse.takeWhile isBlank).reverse, ?_, ?_, ?_⟩
  · have hrest : strip t ++ (rest.reverse.takeWhile isBlank).reverse = rest := by
      rw [strip, stripEnd, dropEndWhile, ← List.reverse_append, List.takeWhile_append_dropWhile,
        List.reverse_reverse]
    rw [List.append_assoc, hrest, List.takeWhile_append_dropWhile]
  · intro c hc
    exact List.mem_takeWhile_imp hc
  · intro c hc
    exact List.mem_takeWhile_imp (List.mem_reverse.mp hc)

theorem Text.strip_strip (t : Text) : strip (strip t) = strip t := by
  obtain ⟨pre, post, ht, hpre, hpost⟩ := exists_eq_strip t
  have hpad := strip_pad hpre hpost (strip t)
  rw [← ht] at hpad
  exact hpad.symm

namespace Row

/-- Whether an odd number of backslashes stands before each pipe, where `odd` tells of the backslashes
before the text. -/
def IsEscaped : Bool → Text → Prop
  | _, [] => True
  | odd, c :: r => (c = '|' → odd = true) ∧ IsEscaped (oddAfter odd c) r

theorem isEscaped_append {odd : Bool} {u v : Text} :
    IsEscaped odd (u ++ v) ↔ IsEscaped odd u ∧ IsEscaped (u.foldl oddAfter odd) v := by
  induction u generalizing odd with
  | nil => simp [IsEscaped]
  | cons c u ih => simp [IsEscaped, ih, and_assoc]

theorem IsEscaped.head?_ne {t : Text} (h : IsEscaped false t) : t.head? ≠ some '|' := by
  cases t with
  | nil => simp
  | cons c r =>
    intro hc
    exact Bool.false_ne_true (h.1 (Option.some.inj hc))

/-- A row is cut at the pipes that are not escaped, so that the pieces have no other pipes. -/
theorem isEscaped_of_splitFrom {odd : Bool} {t piece : Text} {pieces : List Text}
    (h : splitFrom odd t = piece :: pieces) :
    IsEscaped odd piece ∧ ∀ q ∈ pieces, IsEscaped false q := by
  induction t generalizing odd piece pieces with
  | nil =>
    obtain ⟨rfl, rfl⟩ : [] = piece ∧ [] = pieces := by simpa [splitFrom] using h
    exact ⟨trivial, by simp⟩
  | cons c r ih =>
    by_cases hc : (c == '|' && !odd) = true
    · obtain ⟨q, qs, hr⟩ := List.exists_cons_of_ne_nil (splitFrom_ne_nil false r)
      rw [splitFrom_cons, if_pos hc, hr, List.cons.injEq] at h
      obtain ⟨rfl, rfl⟩ := h
      obtain ⟨hq, hqs⟩ := ih hr
      exact ⟨trivial, List.forall_mem_cons.mpr ⟨hq, hqs⟩⟩
    · obtain ⟨cell, cells, hr, hsplit⟩ := splitFrom_cons_of_ne (by simpa using hc) r
      rw [hsplit, List.cons.injEq] at h
      obtain ⟨rfl, rfl⟩ := h
      obtain ⟨hcell, hcells⟩ := ih hr
      refine ⟨⟨fun hpipe => ?_, hcell⟩, hcells⟩
      simpa [hpipe] using hc

theorem isEscaped_of_mem_splitFrom {t piece : Text} (h : piece ∈ splitFrom false t) :
    IsEscaped false piece := by
  obtain ⟨q, qs, hsplit⟩ := List.exists_cons_of_ne_nil (splitFrom_ne_nil false t)
  obtain ⟨hq, hqs⟩ := isEscaped_of_splitFrom hsplit
  rw [hsplit] at h
  exact List.forall_mem_cons.mpr ⟨hq, hqs⟩ piece h

theorem foldl_oddAfter_of_notMem {t : Text} (h : '\\' ∉ t) : t.foldl oddAfter false = false := by
  induction t using List.reverseRecOn with
  | nil => rfl
  | append_singleton r c _ =>
    have hc : c ≠ '\\' := by
      rintro rfl
      simp at h
    simp [oddAfter, hc]

/-- Blanks do not escape, so a piece may be stripped. -/
theorem IsEscaped.strip {t : Text} (h : IsEscaped false t) : IsEscaped false (Text.strip t) := by
  obtain ⟨pre, post, ht, hpre, -⟩ := Text.exists_eq_strip t
  rw [ht, isEscaped_append, isEscaped_append] at h
  have hbackslash : '\\' ∉ pre := fun hc => absurd (hpre _ hc) (by decide)
  rw [foldl_oddAfter_of_notMem hbackslash] at h
  exact h.1.2

theorem escape_unescape {odd : Bool} {t : Text} (h : IsEscaped odd t) (hhead : t.head? ≠ some '|') :
    escape (unescape t) = t := by
  fun_induction unescape t generalizing odd with
  | case1 r ih =>
    have hr : IsEscaped false r := h.2.2
    rw [escape_cons, if_pos rfl, ih hr hr.head?_ne]
  | case2 c r hnext ih =>
    have hc : c ≠ '|' := fun hc => hhead (by rw [hc]; rfl)
    -- A pipe next would be escaped, so that `c` would be a backslash, which is the case above.
    have hr : r.head? ≠ some '|' := by
      intro hpipe
      obtain ⟨r, rfl⟩ := List.head?_eq_some_iff.mp hpipe
      have hodd : oddAfter odd c = true := h.2.1 rfl
      have hbackslash : c = '\\' := by
        simp only [oddAfter, Bool.and_eq_true, beq_iff_eq] at hodd
        exact hodd.1
      exact hnext r hbackslash rfl
    rw [escape_cons, if_neg hc, ih h.2 hr]
  | case3 => rfl

theorem escapesNext_escape (t : Text) : escapesNext (escape t) = escapesNext t := by
  induction t using List.reverseRecOn with
  | nil => rfl
  | append_singleton t c ih =>
    have happend : escape (t ++ [c]) = escape t ++ escape [c] := by simp [escape]
    by_cases hc : c = '|'
    · have hpipe : escape [c] = ['\\'] ++ [c] := by simp [escape, hc]
      rw [happend, hpipe, ← List.append_assoc, escapesNext_concat, escapesNext_concat t]
      simp [oddAfter, hc]
    · have hself : escape [c] = [c] := by simp [escape, hc]
      rw [happend, hself, escapesNext_concat, escapesNext_concat, ih]

theorem even_before_pipe_of_escape {cell : Text} (h : IsEscaped false (escape cell)) (u v : Text)
    (hcell : cell = u ++ '|' :: v) : escapesNext u = false := by
  have happend : escape cell = escape u ++ '\\' :: '|' :: escape v := by
    rw [hcell]
    simp [escape]
  rw [happend, isEscaped_append] at h
  have hodd : oddAfter (escapesNext (escape u)) '\\' = true := by
    rw [escapesNext_eq_foldl]
    exact h.2.2.1 rfl
  rw [escapesNext_escape] at hodd
  simpa [oddAfter] using hodd

theorem strip_eq_of_escape {cell : Text} (h : Text.strip (escape cell) = escape cell) :
    Text.strip cell = cell := by
  obtain ⟨hhead, hlast⟩ := Text.strip_eq_self_iff.mp h
  refine Text.strip_eq_self_iff.mpr ⟨fun c hc => ?_, fun c hc => ?_⟩
  · by_cases hpipe : c = '|'
    · rw [hpipe]
      decide
    · refine hhead c ?_
      rw [head?_escape, Option.mem_def.mp hc]
      simp [hpipe]
  · exact hlast c (by rwa [getLast?_escape])

theorem cells_ne_nil (line : Text) : cells line ≠ [] := by
  rw [cells, ne_eq, List.map_eq_nil_iff]
  exact splitFrom_ne_nil _ _

theorem isCell_of_mem_cells {line : Text} (hr : '\r' ∉ line) (hn : '\n' ∉ line) {cell : Text}
    (h : cell ∈ cells line) : IsCell cell := by
  have hsublist := sublist_of_mem_cells h
  obtain ⟨piece, hpiece, rfl⟩ := List.mem_map.mp h
  have hescaped : IsEscaped false (Text.strip piece) := (isEscaped_of_mem_splitFrom hpiece).strip
  have hescape := escape_unescape hescaped hescaped.head?_ne
  have hstrip : Text.strip (escape (unescape (Text.strip piece))) =
      escape (unescape (Text.strip piece)) := by
    rw [hescape, Text.strip_strip]
  refine ⟨⟨strip_eq_of_escape hstrip, Text.notMem_of_sublist hsublist hr,
    Text.notMem_of_sublist hsublist hn⟩, ?_⟩
  rw [← hescape] at hescaped
  exact even_before_pipe_of_escape hescaped

/-- Cells that can be written read back from the row that they are written to. What any line reads as
are such cells, so reading, writing and reading again gives the same cells. -/
theorem cells_write_of_cells :
    (∀ cs : List Text, cs ≠ [] → (∀ c ∈ cs, IsCell c) → cells (write cs) = cs) ∧
    ∀ line : Text, '\r' ∉ line → '\n' ∉ line →
      cells line ≠ [] ∧ (∀ c ∈ cells line, IsCell c) ∧
      cells (write (cells line)) = cells line := by
  refine ⟨fun cs hne h => cells_write hne h, fun line hr hn => ?_⟩
  have hcells : ∀ c ∈ cells line, IsCell c := fun c hc => isCell_of_mem_cells hr hn hc
  exact ⟨cells_ne_nil line, hcells, cells_write (cells_ne_nil line) hcells⟩

/-- A cell that begins with a pipe and ends in a backslash is written, and a line is read whose second
pipe is escaped while its last one, behind two backslashes, is not. -/
theorem cells_write_of_cells_mixed :
    let cs := ["|a\\".toList, [], "\\\\|".toList]
    let line := "\u00a0a | b\\| c\\\\| ".toList
    cells (write cs) = cs ∧ cells line = ["a".toList, "b| c\\\\".toList] ∧
      cells (write (cells line)) = cells line := by
  intro cs line
  have hwritten : cells (write cs) = cs := cells_write_of_cells.1 cs (by decide) (by decide +kernel)
  exact ⟨hwritten, by decide +kernel,
    (cells_write_of_cells.2 line (by decide +kernel) (by decide +kernel)).2.2⟩

end Row

end Excerpt
