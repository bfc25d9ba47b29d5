import Excerpt.Proofs.Blocks
import Mathlib.Data.List.TakeWhile

/-!
What a block sees of the lines behind it. Lines behind a block may be cut off, unless the last line
before the cut ends a block there as the head of a table.
-/

namespace Excerpt

namespace Line

theorem interrupts_append (l : Line) {xs : List Line} (hx : xs ≠ []) (ys : List Line) :
    l.interrupts (xs ++ ys) = l.interrupts xs := by
  cases xs with
  | nil => exact absurd rfl hx
  | cons x xs => rfl

theorem interrupts_of_nil {l : Line} (h : l.interrupts [] = true) (ls : List Line) :
    l.interrupts ls = true := by
  simp only [interrupts, tableAt?, Bool.or_eq_true, Bool.and_eq_true] at h ⊢
  rcases h with h | ⟨hi, h | h⟩
  · exact Or.inl h
  · exact Or.inr ⟨hi, Or.inl h⟩
  · simp at h

/-- A line ends the run of text before it, and would not do so without the lines behind it. -/
def LeansOn (l : Line) (ls : List Line) : Prop := l.interrupts ls = true ∧ l.interrupts [] = false

theorem not_leansOn_nil (l : Line) : ¬ l.LeansOn [] :=
  fun h => Bool.false_ne_true (h.2.symm.trans h.1)

theorem LeansOn.table {l : Line} {ls : List Line} (h : l.LeansOn ls) :
    l.opensBlock = false ∧ isIndented l.body = false ∧ l.opensItem = false ∧
      (tableAt? l ls).isSome = true := by
  obtain ⟨hls, hnil⟩ := h
  have hnone : tableAt? l [] = none := rfl
  simp only [interrupts, hnone] at hls hnil
  cases hb : l.opensBlock <;> cases hi : isIndented l.body <;> simp_all

end Line

namespace Extent

/-- A count ends on the last line of `xs`, which leans on the lines `ys` behind it. -/
def StopsShort (xs ys : List Line) (n : Nat) : Prop :=
  n + 1 = xs.length ∧ ∃ x ∈ xs.getLast?, x.isBlank = false ∧ x.LeansOn ys

theorem StopsShort.cons {xs ys : List Line} {n : Nat} (h : StopsShort xs ys n) (l : Line) :
    StopsShort (l :: xs) ys (n + 1) := by
  obtain ⟨hn, x, hx, h⟩ := h
  refine ⟨by simp [hn], x, ?_, h⟩
  rw [Option.mem_def] at hx ⊢
  rw [List.getLast?_cons, hx, Option.getD_some]

theorem interrupts_or (l : Line) (xs ys : List Line) (hl : l.isBlank = false) :
    l.interrupts xs = l.interrupts (xs ++ ys) ∨
      l.interrupts (xs ++ ys) = true ∧ StopsShort (l :: xs) ys 0 := by
  cases xs with
  | cons x xs => exact Or.inl (l.interrupts_append (by simp) ys).symm
  | nil =>
    cases hn : l.interrupts [] with
    | true => exact Or.inl (Line.interrupts_of_nil hn ys).symm
    | false =>
      cases hy : l.interrupts ys with
      | false => exact Or.inl (by simp [hy])
      | true => exact Or.inr ⟨by simp [hy], rfl, l, rfl, hl, hy, hn⟩

theorem quote_append {xs ys : List Line} (h : quote (xs ++ ys) ≤ xs.length) :
    quote xs = quote (xs ++ ys) ∨ StopsShort xs ys (quote (xs ++ ys)) := by
  induction xs with
  | nil => exact Or.inl (Nat.le_zero.mp h).symm
  | cons l xs ih =>
    simp only [List.cons_append, quote, List.length_cons] at h ⊢
    by_cases hb : l.isBlank
    · simp [hb]
    by_cases hq : (quoted? l.body).isSome
    · simp only [hb, hq, Bool.false_eq_true, if_false, if_true] at h ⊢
      exact (ih (by omega)).imp (congrArg (· + 1)) (StopsShort.cons · l)
    rcases interrupts_or l xs ys (by simpa using hb) with hi | ⟨hi, hs⟩
    · rw [hi]
      by_cases hy : l.interrupts (xs ++ ys)
      · simp [hb, hq, hy]
      · simp only [hb, hq, hy, Bool.false_eq_true, if_false] at h ⊢
        exact (ih (by omega)).imp (congrArg (· + 1)) (StopsShort.cons · l)
    · exact Or.inr (by simpa [hb, hq, hi] using hs)

theorem paragraph_append {xs ys : List Line} (h : (paragraph (xs ++ ys)).1 ≤ xs.length) :
    (paragraph xs).1 = (paragraph (xs ++ ys)).1 ∨
      StopsShort xs ys (paragraph (xs ++ ys)).1 := by
  induction xs with
  | nil => exact Or.inl (Nat.le_zero.mp h).symm
  | cons l xs ih =>
    simp only [List.cons_append, paragraph, List.length_cons] at h ⊢
    by_cases hb : l.isBlank
    · simp [hb]
    cases hu : Heading.underline? l.body with
    | some d => simp [hb]
    | none =>
      rcases interrupts_or l xs ys (by simpa using hb) with hi | ⟨hi, hs⟩
      · rw [hi]
        by_cases hy : l.interrupts (xs ++ ys)
        · simp [hb, hy]
        · simp only [hb, hu, hy, Bool.false_eq_true, if_false] at h ⊢
          exact (ih (by omega)).imp (congrArg (· + 1)) (StopsShort.cons · l)
      · exact Or.inr (by simpa [hb, hi] using hs)

theorem rows_append {xs ys : List Line} (h : rows (xs ++ ys) ≤ xs.length) :
    rows xs = rows (xs ++ ys) := by
  induction xs with
  | nil => exact (Nat.le_zero.mp h).symm
  | cons l xs ih =>
    simp only [List.cons_append, rows, List.length_cons] at h ⊢
    split
    · rfl
    · rename_i hl
      rw [if_neg hl] at h
      exact congrArg (· + 1) (ih (by omega))

theorem fenced_append (f : Fence) {xs ys : List Line} (h : fenced f (xs ++ ys) ≤ xs.length) :
    fenced f xs = fenced f (xs ++ ys) := by
  induction xs with
  | nil => exact (Nat.le_zero.mp h).symm
  | cons l xs ih =>
    simp only [List.cons_append, fenced, List.length_cons] at h ⊢
    split
    · rfl
    · rename_i hl
      rw [if_neg hl] at h
      exact congrArg (· + 1) (ih (by omega))

theorem space_append {xs ys : List Line} (h : space (xs ++ ys) ≤ xs.length) :
    space xs = space (xs ++ ys) := by
  induction xs with
  | nil => exact (Nat.le_zero.mp h).symm
  | cons l xs ih =>
    by_cases hb : l.isBlank
    · simp only [List.cons_append, space, List.takeWhile_cons, hb, if_true, List.length_cons] at h ⊢
      exact congrArg (· + 1) (ih (by simpa [space] using h))
    · simp [space, hb]

theorem indented_append {xs ys : List Line} (h : indented (xs ++ ys) ≤ xs.length) :
    indented xs = indented (xs ++ ys) := by
  induction xs with
  | nil => exact (Nat.le_zero.mp h).symm
  | cons l xs ih =>
    simp only [List.cons_append, indented, List.length_cons] at h ⊢
    by_cases hb : l.isBlank
    · have hle : indented (xs ++ ys) ≤ xs.length := by
        by_cases hz : indented (xs ++ ys) = 0
        · omega
        · simp only [hb, if_true, beq_iff_eq, hz, if_false] at h
          omega
      simp [hb, ih hle]
    · by_cases hi : isIndented l.body
      · simp only [hb, hi, if_true, Bool.false_eq_true, if_false] at h ⊢
        exact congrArg (· + 1) (ih (by omega))
      · simp [hb, hi]

/-- Where a list goes on behind blank lines, it takes all of them and the line behind them. -/
theorem length_lt_list {kind : Char} {indent : Nat} {xs ys : List Line}
    (hx : ∀ x ∈ xs, x.isBlank = true)
    (hy : resumes kind indent (ys.dropWhile Line.isBlank) = true) :
    xs.length < (list kind indent (xs ++ ys)).length := by
  induction xs with
  | cons x xs ih =>
    have hxs : ∀ z ∈ xs, z.isBlank = true := fun z hz => hx z (List.mem_cons_of_mem _ hz)
    have hres : resumes kind indent ((xs ++ ys).dropWhile Line.isBlank) = true := by
      rwa [List.dropWhile_append_of_pos hxs]
    simpa [list, hx x (by simp), hres] using ih hxs
  | nil =>
    cases ys with
    | nil => simp [resumes] at hy
    | cons y ys =>
      by_cases hb : y.isBlank
      · rw [List.dropWhile_cons_of_pos hb] at hy
        simp [list, hb, hy]
      · rw [List.dropWhile_cons_of_neg hb] at hy
        simp only [resumes, Bool.or_eq_true, decide_eq_true_eq, Bool.and_eq_true,
          Option.any_eq_true, beq_iff_eq, Bool.not_eq_true'] at hy
        rcases hy with hy | ⟨⟨m, hm, hk⟩, hr⟩
        · simp [list, hb, hy]
        · by_cases hi : indent ≤ Text.columns y.body <;> simp [list, hb, hi, hr, hm, hk]

theorem resumes_append {kind : Char} {indent : Nat} {xs ys : List Line}
    (h : (list kind indent (xs ++ ys)).length ≤ xs.length) :
    resumes kind indent ((xs ++ ys).dropWhile Line.isBlank) =
      resumes kind indent (xs.dropWhile Line.isBlank) := by
  rw [List.dropWhile_append]
  cases hd : xs.dropWhile Line.isBlank with
  | cons x xs => rfl
  | nil =>
    have hx : ∀ x ∈ xs, x.isBlank = true := List.dropWhile_eq_nil_iff.mp hd
    cases hy : resumes kind indent (ys.dropWhile Line.isBlank) with
    | true => exact absurd (length_lt_list hx hy) (Nat.not_lt.mpr h)
    | false => simpa [resumes] using hy

theorem list_append {kind : Char} {indent : Nat} {xs ys : List Line}
    (h : (list kind indent (xs ++ ys)).length ≤ xs.length) :
    (list kind indent xs).length = (list kind indent (xs ++ ys)).length ∨
      StopsShort xs ys (list kind indent (xs ++ ys)).length := by
  induction xs generalizing indent with
  | nil => exact Or.inl (Nat.le_zero.mp h).symm
  | cons l xs ih =>
    have hgo {indent : Nat} (h : (list kind indent (xs ++ ys)).length + 1 ≤ (l :: xs).length) :
        (list kind indent xs).length + 1 = (list kind indent (xs ++ ys)).length + 1 ∨
          StopsShort (l :: xs) ys ((list kind indent (xs ++ ys)).length + 1) :=
      (ih (Nat.le_of_succ_le_succ h)).imp (congrArg (· + 1)) (StopsShort.cons · l)
    have hres := resumes_append h
    simp only [List.cons_append, list] at h ⊢
    by_cases hb : l.isBlank
    · rw [List.cons_append, List.dropWhile_cons_of_pos hb, List.dropWhile_cons_of_pos hb] at hres
      simp only [hb, if_true, hres] at h ⊢
      split
      · rename_i hr
        rw [if_pos hr] at h
        exact hgo h
      · exact Or.inl rfl
    by_cases hi : indent ≤ Text.columns l.body
    · simp only [hb, hi, Bool.false_eq_true, if_false, if_true] at h ⊢
      exact hgo h
    by_cases hr : isRule l.body
    · simp [hb, hi, hr]
    simp only [hb, hi, hr, Bool.false_eq_true, if_false] at h ⊢
    cases hm : Marker.read? l.body with
    | some m =>
      simp only [hm] at h ⊢
      split
      · rename_i hk
        rw [if_pos hk] at h
        exact hgo h
      · exact Or.inl rfl
    | none =>
      simp only [hm] at h ⊢
      rcases interrupts_or l xs ys (by simpa using hb) with hx | ⟨hx, hs⟩
      · rw [hx]
        split
        · exact Or.inl rfl
        · rename_i hy
          rw [if_neg hy] at h
          exact hgo h
      · exact Or.inr (by simpa [hx] using hs)

end Extent

namespace Opening

theorem read_nil {l : Line} {ls : List Line} (h : ∀ header align, read l ls ≠ table header align) :
    read l [] = read l ls := by
  unfold read at h ⊢
  by_cases hb : l.isBlank
  · simp [hb]
  cases hf : Fence.opening? l.body with
  | some f => simp [hb]
  | none =>
    by_cases hi : isIndented l.body
    · simp [hb, hi]
    cases hh : Heading.hashed? l.body with
    | some d => simp [hb, hi]
    | none =>
      by_cases hr : isRule l.body
      · simp [hb, hi, hr]
      by_cases hq : (quoted? l.body).isSome
      · simp [hb, hi, hr, hq]
      cases hm : Marker.read? l.body with
      | some m => simp [hb, hi, hr, hq]
      | none =>
        cases ht : tableAt? l ls with
        | none => rfl
        | some r => simp [hb, hf, hi, hh, hr, hq, hm, ht] at h

theorem read_paragraph {l : Line} {ls : List Line} (h : read l ls = paragraph) :
    l.isBlank = false ∧ Fence.opening? l.body = none ∧ Heading.hashed? l.body = none ∧
      isRule l.body = false ∧ (quoted? l.body).isSome = false ∧ Marker.read? l.body = none ∧
      tableAt? l ls = none := by
  unfold read at h
  repeat' split at h
  all_goals simp_all

theorem interrupts_of_read_paragraph {l : Line} {ls : List Line} (h : read l ls = paragraph) :
    l.interrupts ls = false := by
  obtain ⟨-, hf, hh, hr, hq, hm, ht⟩ := read_paragraph h
  simp [Line.interrupts, Line.opensBlock, Line.opensItem, hf, hh, hr, hq, hm, ht]

theorem read_heading {l : Line} {ls : List Line} {d : Nat} {t : Text} (h : read l ls = heading d t) :
    Heading.hashed? l.body = some (d, t) := by
  unfold read at h
  grind

/-- What leans on the lines behind it opens a list or a table. -/
theorem read_of_leansOn {l : Line} {ls : List Line} (hb : l.isBlank = false) (h : l.LeansOn ls) :
    (∃ m, read l ls = list m) ∨ ∃ header align, read l ls = table header align := by
  obtain ⟨hblock, hindent, -, htable⟩ := h.table
  obtain ⟨r, hr⟩ := Option.isSome_iff_exists.mp htable
  simp only [Line.opensBlock, hindent, Bool.not_false, Bool.true_and, Bool.or_eq_false_iff] at hblock
  obtain ⟨⟨⟨hf, hh⟩, hrule⟩, hq⟩ := hblock
  rw [Option.isSome_eq_false_iff, Option.isNone_iff_eq_none] at hf hh
  cases hm : Marker.read? l.body with
  | some m => exact Or.inl ⟨m, by simp [read, hb, hf, hindent, hh, hrule, hq, hm]⟩
  | none => exact Or.inr ⟨r.1, r.2, by simp [read, hb, hf, hindent, hh, hrule, hq, hm, hr]⟩

theorem extent_append {o : Opening} {xs ys : List Line} (h : o.extent (xs ++ ys) ≤ xs.length) :
    o.extent xs = o.extent (xs ++ ys) ∨ Extent.StopsShort xs ys (o.extent (xs ++ ys)) := by
  cases o with
  | space => exact Or.inl (Extent.space_append h)
  | fenced f info => exact Or.inl (Extent.fenced_append f h)
  | indented => exact Or.inl (Extent.indented_append h)
  | heading d t => exact Or.inl rfl
  | rule => exact Or.inl rfl
  | quote => exact Extent.quote_append h
  | list m => exact Extent.list_append h
  | paragraph => exact Extent.paragraph_append h
  | table header align =>
    cases xs with
    | nil => simp [extent] at h
    | cons x xs =>
      simp only [extent, List.cons_append, List.tail_cons, List.length_cons] at h ⊢
      exact Or.inl (congrArg (· + 1) (Extent.rows_append (by omega)))

end Opening

namespace Token

theorem read_append_of_reach {l : Line} {xs ys : List Line} (h : reach l (xs ++ ys) ≤ xs.length) :
    Opening.read l xs = Opening.read l (xs ++ ys) := by
  cases xs with
  | cons x xs => rfl
  | nil =>
    refine Opening.read_nil fun header align ht => ?_
    rw [reach, ht] at h
    simp [Opening.extent] at h

theorem reach_append {l : Line} {xs ys : List Line} (h : reach l (xs ++ ys) ≤ xs.length) :
    reach l xs = reach l (xs ++ ys) ∨ Extent.StopsShort xs ys (reach l (xs ++ ys)) := by
  rw [reach, read_append_of_reach h]
  exact Opening.extent_append h

theorem Reads.length_le {ls rest : List Line} {ts : List Token} (h : Reads ls ts rest) :
    rest.length ≤ ls.length := by
  obtain ⟨own, hls, -, -⟩ := h.own
  simp [hls]

theorem Reads.reach_le_left {l : Line} {xs ys : List Line} {ts : List Token}
    (h : Reads ((xs ++ ys).drop (reach l (xs ++ ys))) ts ys) :
    reach l (xs ++ ys) ≤ xs.length := by
  have hle := h.length_le
  have hreach := reach_le l (xs ++ ys)
  simp only [List.length_drop, List.length_append] at hle hreach
  omega

theorem first_append {l : Line} {xs ys : List Line} (h : reach l (xs ++ ys) ≤ xs.length)
    (he : reach l xs = reach l (xs ++ ys)) : first l xs = first l (xs ++ ys) := by
  rw [first, first, read_append_of_reach h, he, List.take_append_of_le_length h]

/-- The lines behind a run may be cut off, unless the last line of the run is a block of its own
that leans on them. -/
theorem Reads.cutoff {xs ys : List Line} {ts : List Token} (h : Reads (xs ++ ys) ts ys)
    (hy : ∀ x us, x.isBlank = false → x.LeansOn ys → ¬ Reads (x :: ys) us ys) :
    Reads xs ts [] := by
  generalize hls : xs ++ ys = ls at h
  induction h generalizing xs with
  | done ys =>
    rw [List.append_left_eq_self.mp hls]
    exact .done []
  | @step l ls ts ys h ih =>
    cases xs with
    | nil =>
      -- the step would have to give lines back
      obtain rfl : ys = l :: ls := hls
      have hle := h.length_le
      simp only [List.length_cons, List.length_drop] at hle
      omega
    | cons x xs =>
      obtain ⟨rfl, rfl⟩ : x = l ∧ xs ++ ys = ls := by simpa using hls
      have hle := h.reach_le_left
      rw [List.drop_append_of_le_length hle] at h ih
      rcases reach_append hle with he | ⟨hn, y, hlast, hb, hlean⟩
      · rw [← first_append hle he]
        refine .step ?_
        rw [he]
        exact ih hy rfl
      · obtain ⟨zs, rfl⟩ := List.getLast?_eq_some_iff.mp hlast
        have hzs : reach x (zs ++ [y] ++ ys) = zs.length := by simpa using hn
        rw [hzs, List.drop_left] at h
        exact absurd h (hy y ts hb hlean)

theorem reach_le_length_take (l : Line) (ls : List Line) :
    reach l (ls.take (reach l ls) ++ ls.drop (reach l ls)) ≤ (ls.take (reach l ls)).length := by
  rw [List.take_append_drop, List.length_take_of_le (reach_le l ls)]

theorem read_take (l : Line) (ls : List Line) :
    Opening.read l (ls.take (reach l ls)) = Opening.read l ls := by
  simpa using read_append_of_reach (reach_le_length_take l ls)

theorem reach_take (l : Line) (ls : List Line) :
    reach l (ls.take (reach l ls)) = reach l ls := by
  rcases reach_append (reach_le_length_take l ls) with he | ⟨hn, -⟩
  · rwa [List.take_append_drop] at he
  · rw [List.take_append_drop, List.length_take_of_le (reach_le l ls)] at hn
    omega

theorem reads_first (l : Line) (ls : List Line) :
    Reads (l :: ls.take (reach l ls)) [first l ls] [] := by
  have hreach := reach_take l ls
  have hfirst : first l (ls.take (reach l ls)) = first l ls := by
    rw [first, first, read_take, hreach, List.take_take, Nat.min_self]
  rw [← hfirst]
  refine .step ?_
  rw [hreach, List.drop_of_length_le (List.length_take_le _ _)]
  exact .done []

end Token

end Excerpt
