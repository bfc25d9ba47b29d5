import Excerpt.Markdown.Row
import Excerpt.Proofs.Joining
import Mathlib.Data.List.Induction

/-!
Table rows as written. A row is written with its outer pipes, and each pipe of a cell behind a
backslash; what is written in this way reads back as the same cells.
-/

namespace Excerpt

namespace Row

def escape (cell : Text) : Text := cell.flatMap fun c => if c == '|' then ['\\', '|'] else [c]

def write (cells : List Text) : Text :=
  ['|', ' '] ++ Text.joinWith [' ', '|', ' '] (cells.map escape) ++ [' ', '|']

/-- A cell that can be written: a line with an even number of backslashes before each pipe. -/
structure IsCell (cell : Text) : Prop extends Text.IsLine cell where
  even_before_pipe : ∀ u v, cell = u ++ '|' :: v → escapesNext u = false

theorem isCell_iff {cell : Text} :
    IsCell cell ↔ cell.IsLine ∧
      ∀ i < cell.length, cell[i]? = some '|' → escapesNext (cell.take i) = false := by
  refine ⟨fun h => ⟨h.toIsLine, fun i hi hpipe => ?_⟩, fun h => ⟨h.1, fun u v huv => ?_⟩⟩
  · have hdrop := List.drop_eq_getElem_cons hi
    rw [List.getElem?_eq_getElem hi, Option.some_inj] at hpipe
    refine h.even_before_pipe _ (cell.drop (i + 1)) ?_
    rw [← hpipe, ← hdrop, List.take_append_drop]
  · have hu := h.2 u.length
    simpa [huv] using hu

instance : DecidablePred IsCell := fun _ => decidable_of_iff' _ isCell_iff

/-- Whether the backslashes at the end are odd in number when one more character has come. -/
def oddAfter (odd : Bool) (c : Char) : Bool := c == '\\' && !odd

theorem escapesNext_concat (t : Text) (c : Char) :
    escapesNext (t ++ [c]) = oddAfter (escapesNext t) c := by
  by_cases hc : c = '\\'
  · simp only [escapesNext, oddAfter, List.reverse_append, List.reverse_cons, List.reverse_nil,
      List.nil_append, List.cons_append, List.takeWhile_cons, hc, beq_self_eq_true, if_true,
      List.length_cons, Bool.true_and]
    grind
  · simp [escapesNext, oddAfter, hc]

theorem escapesNext_eq_foldl (t : Text) : escapesNext t = t.foldl oddAfter false := by
  induction t using List.reverseRecOn with
  | nil => rfl
  | append_singleton t c ih => rw [escapesNext_concat, ih, List.foldl_append]; rfl

theorem splitFrom_cons (odd : Bool) (c : Char) (r : Text) :
    splitFrom odd (c :: r) =
      if c == '|' && !odd then [] :: splitFrom false r
      else match splitFrom (oddAfter odd c) r with
        | [] => [[c]]
        | cell :: cells => (c :: cell) :: cells := rfl

theorem splitFrom_ne_nil (odd : Bool) (t : Text) : splitFrom odd t ≠ [] := by
  cases t with
  | nil => simp [splitFrom]
  | cons c r =>
    rw [splitFrom_cons]
    split
    · simp
    · split <;> simp

theorem splitFrom_pipe (r : Text) : splitFrom false ('|' :: r) = [] :: splitFrom false r := rfl

theorem splitFrom_cons_of_ne {odd : Bool} {c : Char} (h : (c == '|' && !odd) = false) (r : Text) :
    ∃ cell cells, splitFrom (oddAfter odd c) r = cell :: cells ∧
      splitFrom odd (c :: r) = (c :: cell) :: cells := by
  obtain ⟨cell, cells, hr⟩ := List.exists_cons_of_ne_nil (splitFrom_ne_nil (oddAfter odd c) r)
  refine ⟨cell, cells, hr, ?_⟩
  rw [splitFrom_cons, h, hr]
  rfl

/-- A text without pipes that part cells goes into the first cell of what comes behind it. -/
theorem splitFrom_append {odd : Bool} {w : Text} (h : splitFrom odd w = [w]) {r cell : Text}
    {cells : List Text} (hr : splitFrom (w.foldl oddAfter odd) r = cell :: cells) :
    splitFrom odd (w ++ r) = (w ++ cell) :: cells := by
  induction w generalizing odd with
  | nil => exact hr
  | cons c w ih =>
    have hc : (c == '|' && !odd) = false := by
      by_contra hc
      rw [splitFrom_cons, if_pos (by simpa using hc)] at h
      simp at h
    obtain ⟨u, us, hu, hsplit⟩ := splitFrom_cons_of_ne hc w
    rw [h] at hsplit
    simp only [List.cons.injEq, true_and] at hsplit
    obtain ⟨rfl, rfl⟩ := hsplit
    obtain ⟨v, vs, hv, hall⟩ := splitFrom_cons_of_ne hc (w ++ r)
    rw [ih hu hr] at hv
    obtain ⟨rfl, rfl⟩ := List.cons.inj hv
    exact hall

theorem splitFrom_joinWith {ps : List Text} (hne : ps ≠ [])
    (h : ∀ p ∈ ps, splitFrom false p = [p] ∧ p.foldl oddAfter false = false) :
    splitFrom false (Text.joinWith ['|'] ps) = ps := by
  induction ps with
  | nil => exact absurd rfl hne
  | cons p ps ih =>
    obtain ⟨hp, hodd⟩ := h p (by simp)
    cases ps with
    | nil => rw [Text.joinWith_singleton, hp]
    | cons q ps =>
      have hrest := ih (by simp) fun q hq => h q (List.mem_cons_of_mem p hq)
      rw [Text.joinWith_cons_cons, List.append_assoc, List.singleton_append]
      have hpipe : splitFrom (p.foldl oddAfter false)
          ('|' :: Text.joinWith ['|'] (q :: ps)) = [] :: q :: ps := by
        rw [hodd, splitFrom_pipe, hrest]
      rw [splitFrom_append hp hpipe, List.append_nil]

theorem foldl_joinWith {ps : List Text} (h : ∀ p ∈ ps, p.foldl oddAfter false = false) :
    (Text.joinWith ['|'] ps).foldl oddAfter false = false := by
  induction ps with
  | nil => rfl
  | cons p ps ih =>
    have hp := h p (by simp)
    cases ps with
    | nil => rwa [Text.joinWith_singleton]
    | cons q ps =>
      have hrest := ih fun q hq => h q (List.mem_cons_of_mem p hq)
      rw [Text.joinWith_cons_cons, List.foldl_append, List.foldl_append, hp]
      exact hrest

theorem escape_cons (c : Char) (r : Text) :
    escape (c :: r) = if c = '|' then '\\' :: '|' :: escape r else c :: escape r := by
  by_cases hc : c = '|' <;> simp [escape, hc]

theorem getLast?_escape (cell : Text) : (escape cell).getLast? = cell.getLast? := by
  induction cell using List.reverseRecOn with
  | nil => rfl
  | append_singleton r c _ => by_cases hc : c = '|' <;> simp [escape, hc]

theorem head?_escape (cell : Text) :
    (escape cell).head? = cell.head?.map fun c => if c = '|' then '\\' else c := by
  cases cell with
  | nil => rfl
  | cons c r =>
    rw [escape_cons]
    by_cases hc : c = '|' <;> simp [hc]

theorem notMem_write {c : Char} (hc : c ∉ ['|', ' ', '\\']) {cells : List Text}
    (h : ∀ cell ∈ cells, c ∉ cell) : c ∉ write cells := by
  simp only [List.mem_cons, List.not_mem_nil, or_false, not_or] at hc
  have hescape : ∀ t ∈ cells.map escape, c ∉ t := by
    intro t ht hmem
    obtain ⟨cell, hcell, rfl⟩ := List.mem_map.mp ht
    obtain ⟨d, hd, hmem⟩ := List.mem_flatMap.mp hmem
    split at hmem
    · have hpipe : c = '\\' ∨ c = '|' := by simpa using hmem
      rcases hpipe with rfl | rfl
      · exact hc.2.2 rfl
      · exact hc.1 rfl
    · exact h cell hcell (List.mem_singleton.mp hmem ▸ hd)
  have hjoin : c ∉ Text.joinWith [' ', '|', ' '] (cells.map escape) :=
    Text.notMem_joinWith (by simp [hc]) hescape
  simp [write, hjoin, hc]

theorem unescape_cons_of_ne {c : Char} {r : Text} (h : r.head? ≠ some '|') :
    unescape (c :: r) = c :: unescape r := by
  rw [unescape]
  rintro r' - rfl
  exact h rfl

theorem unescape_escape (cell : Text) : unescape (escape cell) = cell := by
  induction cell with
  | nil => rfl
  | cons c r ih =>
    rw [escape_cons]
    split
    · rename_i hc
      rw [hc, unescape, ih]
    · have hhead : (escape r).head? ≠ some '|' := by
        rw [head?_escape]
        intro h
        obtain ⟨d, -, hd⟩ := Option.map_eq_some_iff.mp h
        split at hd
        · exact absurd hd (by decide)
        · contradiction
      rw [unescape_cons_of_ne hhead, ih]

theorem splitFrom_escape {odd : Bool} {cell : Text}
    (h : ∀ u v, cell = u ++ '|' :: v → u.foldl oddAfter odd = false) :
    splitFrom odd (escape cell) = [escape cell] := by
  induction cell generalizing odd with
  | nil => rfl
  | cons c r ih =>
    have hr : splitFrom (oddAfter odd c) (escape r) = [escape r] :=
      ih fun u v hr => h (c :: u) v (by rw [hr, List.cons_append])
    rw [escape_cons]
    by_cases hc : c = '|'
    · subst hc
      obtain rfl : odd = false := h [] r rfl
      have hr : splitFrom false (escape r) = [escape r] := hr
      simp [splitFrom_cons, oddAfter, hr]
    · rw [if_neg hc, splitFrom_cons, if_neg (by simp [hc]), hr]

def pad (cell : Text) : Text := ' ' :: escape cell ++ [' ']

theorem write_eq {cells : List Text} (hne : cells ≠ []) :
    write cells = '|' :: (Text.joinWith ['|'] (cells.map pad) ++ ['|']) := by
  have hjoin : ∀ c cs, [' '] ++ Text.joinWith [' ', '|', ' '] ((c :: cs).map escape) ++ [' '] =
      Text.joinWith ['|'] ((c :: cs).map pad) := by
    intro c cs
    induction cs generalizing c with
    | nil => simp [pad]
    | cons d cs ih =>
      have hrest := ih d
      simp only [List.map_cons, Text.joinWith_cons_cons] at hrest ⊢
      rw [← hrest]
      simp [pad]
  obtain ⟨c, cs, rfl⟩ := List.exists_cons_of_ne_nil hne
  rw [← hjoin]
  simp [write]

theorem splitFrom_pad {cell : Text} (h : IsCell cell) : splitFrom false (pad cell) = [pad cell] := by
  have hcell : splitFrom false (escape cell) = [escape cell] :=
    splitFrom_escape fun u v hu => by rw [← escapesNext_eq_foldl, h.even_before_pipe u v hu]
  have hblank (odd : Bool) : splitFrom odd [' '] = [[' ']] := by cases odd <;> rfl
  have hright : splitFrom false (escape cell ++ [' ']) = [escape cell ++ [' ']] :=
    splitFrom_append hcell (hblank _)
  exact splitFrom_append (w := [' ']) rfl hright

theorem foldl_pad (cell : Text) : (pad cell).foldl oddAfter false = false := by
  simp [pad, oddAfter]

theorem strip_pad {cell : Text} (h : IsCell cell) : Text.strip (pad cell) = escape cell := by
  obtain ⟨hhead, hlast⟩ := Text.strip_eq_self_iff.mp h.strip_eq
  have hblank : ∀ c ∈ [' '], Text.isBlank c = true := List.all_eq_true.mp (by decide)
  have hescape : Text.strip (escape cell) = escape cell := by
    refine Text.strip_eq_self_iff.mpr ⟨fun c hc => ?_, fun c hc => hlast c (getLast?_escape cell ▸ hc)⟩
    rw [head?_escape] at hc
    obtain ⟨d, hd, rfl⟩ := Option.map_eq_some_iff.mp hc
    split
    · decide
    · exact hhead d hd
  calc Text.strip (pad cell) = Text.strip ([' '] ++ escape cell ++ [' ']) := rfl
    _ = Text.strip (escape cell) := Text.strip_pad hblank hblank (escape cell)
    _ = escape cell := hescape

/-- A row reads back as the cells that it was written from. -/
theorem cells_write {cs : List Text} (hne : cs ≠ []) (h : ∀ c ∈ cs, IsCell c) :
    cells (write cs) = cs := by
  have hpads : ∀ p ∈ cs.map pad, splitFrom false p = [p] ∧ p.foldl oddAfter false = false := by
    intro p hp
    obtain ⟨c, hc, rfl⟩ := List.mem_map.mp hp
    exact ⟨splitFrom_pad (h c hc), foldl_pad c⟩
  have hstrip : Text.strip (write cs) = write cs := by
    rw [write_eq hne]
    refine Text.strip_eq_self_iff.mpr ⟨?_, ?_⟩
    · rintro c ⟨⟩
      decide
    · intro c hc
      rw [← List.cons_append, List.getLast?_append] at hc
      obtain rfl : '|' = c := by simpa using hc
      decide
  have hinner : escapesNext (Text.joinWith ['|'] (cs.map pad)) = false := by
    rw [escapesNext_eq_foldl]
    exact foldl_joinWith fun p hp => (hpads p hp).2
  have houter : dropOuterPipes (write cs) = Text.joinWith ['|'] (cs.map pad) := by
    rw [write_eq hne]
    simp [dropOuterPipes, hinner]
  rw [cells, hstrip, houter, splitFrom_joinWith (by simpa using hne) hpads, List.map_map]
  refine (List.map_congr_left fun c hc => ?_).trans (List.map_id cs)
  simp [strip_pad (h c hc), unescape_escape]

end Row

end Excerpt
