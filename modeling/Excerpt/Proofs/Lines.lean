import Excerpt.Text.Line
import Mathlib.Data.List.Chain

/-!
Lines and the text that they join to. `Line.AreCut` says which lists of lines a text is cut into, and
on them cutting undoes joining.
-/

namespace Excerpt

namespace Line

/-- A line as it is cut from a text: its body holds no end of line, and without an ending it is not
empty. -/
def IsWhole (l : Line) : Prop :=
  '\r' ∉ l.body ∧ '\n' ∉ l.body ∧ (l.ending = .eof → l.body ≠ [])

/-- Whether a line may stand before another one. A `\r` of its own is not followed by `\n`. -/
def Meets (l m : Line) : Prop :=
  l.ending ≠ .eof ∧ (l.ending = .cr → m ≠ ⟨[], .lf⟩)

def AreCut (ls : List Line) : Prop :=
  (∀ l ∈ ls, l.IsWhole) ∧ ls.IsChain Meets

theorem toText_ne_nil {l : Line} (h : l.IsWhole) : l.toText ≠ [] := by
  obtain ⟨body, ending⟩ := l
  cases ending with
  | eof => simpa [toText, Ending.toText] using h.2.2 rfl
  | lf | cr | crlf => simp [toText, Ending.toText]

theorem AreCut.left {xs ys : List Line} (h : AreCut (xs ++ ys)) : AreCut xs :=
  ⟨fun l hl => h.1 l (List.mem_append_left ys hl), (List.isChain_append.mp h.2).1⟩

theorem AreCut.right {xs ys : List Line} (h : AreCut (xs ++ ys)) : AreCut ys :=
  ⟨fun l hl => h.1 l (List.mem_append_right xs hl), (List.isChain_append.mp h.2).2.1⟩

theorem AreCut.append {xs ys : List Line} (hx : AreCut xs) (hy : AreCut ys)
    (h : ∀ l ∈ xs.getLast?, ∀ m ∈ ys.head?, l.Meets m) : AreCut (xs ++ ys) := by
  refine ⟨?_, List.isChain_append.mpr ⟨hx.2, hy.2, h⟩⟩
  intro l hl
  rcases List.mem_append.mp hl with hl | hl
  · exact hx.1 l hl
  · exact hy.1 l hl

theorem joined_append (xs ys : List Line) : joined (xs ++ ys) = joined xs ++ joined ys :=
  List.flatMap_append

theorem eq_of_feed_first {l : Line} (hl : l.IsWhole) {ls : List Line}
    (h : (joined (l :: ls)).head? = some '\n') : l = ⟨[], .lf⟩ := by
  obtain ⟨body, ending⟩ := l
  cases body with
  | cons c body =>
    have hc : c = '\n' := by simpa [joined, toText] using h
    exact absurd hl.2.1 (by simp [hc])
  | nil =>
    cases ending with
    | eof => exact absurd rfl (hl.2.2 rfl)
    | lf => rfl
    | cr | crlf => simp [joined, toText, Ending.toText] at h

theorem joined_eq_nil_iff {ls : List Line} (h : AreCut ls) : joined ls = [] ↔ ls = [] := by
  cases ls with
  | nil => simp [joined]
  | cons l ls => simp [joined, toText_ne_nil (h.1 l (by simp))]

end Line

namespace Text

theorem joined_lines (t : Text) : Line.joined (lines t) = t := by
  fun_induction lines t with
  | case1 => rfl
  | case2 r ih | case3 r _ ih | case4 r ih =>
    simpa [Line.joined, Line.toText, Ending.toText] using ih
  | case5 c r _ _ _ hr ih =>
    rw [hr] at ih
    simp [Line.joined, Line.toText, Ending.toText, ← ih]
  | case6 c r _ _ _ l ls hr ih =>
    rw [hr] at ih
    simpa [Line.joined, Line.toText, Line.cons] using ih

theorem head_of_lines {r : Text} (h : (lines r).head? = some ⟨[], .lf⟩) : r.head? = some '\n' := by
  obtain ⟨ls, hls⟩ := List.head?_eq_some_iff.mp h
  have hr := joined_lines r
  rw [hls] at hr
  simp [← hr, Line.joined, Line.toText, Ending.toText]

theorem lines_areCut (t : Text) : Line.AreCut (lines t) := by
  fun_induction lines t with
  | case1 => exact ⟨by simp, by simp⟩
  | case2 r ih | case4 r ih =>
    refine ⟨?_, List.isChain_cons.mpr ⟨fun m _ => ⟨by simp, by simp⟩, ih.2⟩⟩
    intro l hl
    rcases List.mem_cons.mp hl with rfl | hl
    · simp [Line.IsWhole]
    · exact ih.1 l hl
  | case3 r hr ih =>
    refine ⟨?_, List.isChain_cons.mpr ⟨?_, ih.2⟩⟩
    · intro l hl
      rcases List.mem_cons.mp hl with rfl | hl
      · simp [Line.IsWhole]
      · exact ih.1 l hl
    · intro m hm
      refine ⟨by simp, fun _ he => ?_⟩
      obtain ⟨r', rfl⟩ := List.head?_eq_some_iff.mp (head_of_lines (he ▸ hm))
      exact hr r' rfl
  | case5 c r _ hcr hlf hr ih =>
    refine ⟨?_, by simp⟩
    intro l hl
    rw [List.mem_singleton.mp hl]
    have hc : c ≠ '\r' ∧ c ≠ '\n' := ⟨hcr, hlf⟩
    simp [Line.IsWhole, hc.1.symm, hc.2.symm]
  | case6 c r _ hcr hlf l ls hr ih =>
    rw [hr] at ih
    refine ⟨?_, ?_⟩
    · intro m hm
      rcases List.mem_cons.mp hm with rfl | hm
      · obtain ⟨hl, hl', -⟩ := ih.1 l (by simp)
        have hc : c ≠ '\r' ∧ c ≠ '\n' := ⟨hcr, hlf⟩
        simp [Line.IsWhole, Line.cons, hc.1.symm, hc.2.symm, hl, hl']
      · exact ih.1 m (List.mem_cons_of_mem _ hm)
    · -- putting a character in front changes no ending
      have h := List.isChain_cons.mp ih.2
      exact List.isChain_cons.mpr ⟨h.1, h.2⟩

theorem lines_cons {c : Char} {r : Text} (hr : c ≠ '\r') (hn : c ≠ '\n') :
    lines (c :: r) =
      match lines r with
      | [] => [⟨[c], .eof⟩]
      | l :: ls => l.cons c :: ls := by
  cases h : lines r <;> simp [lines, hr, h]

theorem lines_toText_append {l : Line} (hl : l.IsWhole) {r : Text} (heof : l.ending = .eof → r = [])
    (hcr : l.ending = .cr → r.head? ≠ some '\n') : lines (l.toText ++ r) = l :: lines r := by
  obtain ⟨body, ending⟩ := l
  induction body with
  | nil =>
    cases ending with
    | eof => exact absurd rfl (hl.2.2 rfl)
    | lf | crlf => simp [Line.toText, Ending.toText, lines]
    | cr =>
      cases r with
      | nil => simp [Line.toText, Ending.toText, lines]
      | cons c r =>
        have hc : c ≠ '\n' := fun h => hcr rfl (by simp [h])
        simp [Line.toText, Ending.toText, lines, hc]
  | cons c body ih =>
    obtain ⟨hr, hn, -⟩ := hl
    simp only [List.mem_cons, not_or] at hr hn
    have hlines := lines_cons (r := (Line.mk body ending).toText ++ r) (Ne.symm hr.1) (Ne.symm hn.1)
    change lines (c :: ((Line.mk body ending).toText ++ r)) = _
    by_cases hb : ending = .eof ∧ body = []
    · obtain ⟨rfl, rfl⟩ := hb
      rw [hlines, heof rfl]
      simp [Line.toText, Ending.toText, lines]
    · have hwhole : (Line.mk body ending).IsWhole :=
        ⟨hr.2, hn.2, fun he hbody => hb ⟨he, hbody⟩⟩
      rw [hlines, ih hwhole heof hcr]
      rfl

theorem lines_joined {ls : List Line} (h : Line.AreCut ls) : lines (Line.joined ls) = ls := by
  induction ls with
  | nil => rfl
  | cons l ls ih =>
    have hchain := List.isChain_cons.mp h.2
    have hls : Line.AreCut ls := ⟨fun m hm => h.1 m (List.mem_cons_of_mem _ hm), hchain.2⟩
    have hnext : ∀ m ∈ ls.head?, l.Meets m := hchain.1
    change lines (l.toText ++ Line.joined ls) = _
    rw [lines_toText_append (h.1 l (by simp)), ih hls]
    · intro he
      cases ls with
      | nil => rfl
      | cons m ls => exact absurd he (hnext m rfl).1
    · intro he hfeed
      cases ls with
      | nil => simp [Line.joined] at hfeed
      | cons m ls =>
        have hfirst : m = ⟨[], .lf⟩ := Line.eq_of_feed_first (hls.1 m (by simp)) hfeed
        exact (hnext m rfl).2 he hfirst

def EndsLine (t : Text) : Prop := t.getLast? = some '\n' ∨ t.getLast? = some '\r'

/-- Whether a text may be parted at an offset: right behind an end of line, and not inside of
`\r\n`. -/
def PartsAt (t : Text) (i : Nat) : Prop :=
  EndsLine (t.take i) ∧ ¬ ((t.take i).getLast? = some '\r' ∧ (t.drop i).head? = some '\n')

theorem partsAt_append {s t : Text} :
    PartsAt (s ++ t) s.length ↔
      EndsLine s ∧ ¬ (s.getLast? = some '\r' ∧ t.head? = some '\n') := by
  simp [PartsAt]

end Text

namespace Line

theorem getLast?_joined_concat (xs : List Line) {l : Line} (h : l.ending ≠ .eof) :
    (joined (xs ++ [l])).getLast? = l.ending.toText.getLast? := by
  rw [joined_append]
  cases he : l.ending <;> simp_all [joined, toText, Ending.toText, List.getLast?_append]

theorem ending_of_endsLine {ls : List Line} (h : AreCut ls) (ht : Text.EndsLine (joined ls)) :
    ∀ l ∈ ls.getLast?, l.ending ≠ .eof := by
  intro l hl he
  obtain ⟨xs, rfl⟩ := List.getLast?_eq_some_iff.mp hl
  obtain ⟨hr, hn, hbody⟩ := h.1 l (by simp)
  obtain ⟨c, hc⟩ := List.getLast?_isSome.mpr (hbody he) |> Option.isSome_iff_exists.mp
  have hlast : (joined (xs ++ [l])).getLast? = some c := by
    simp [joined, toText, he, Ending.toText, List.getLast?_append, hc]
  have hmem := List.mem_of_getLast? hc
  rw [Text.EndsLine, hlast] at ht
  rcases ht with ht | ht <;> cases ht
  · exact hn hmem
  · exact hr hmem

theorem AreCut.partsAt {xs ys : List Line} (h : AreCut (xs ++ ys)) (hx : xs ≠ []) (hy : ys ≠ []) :
    Text.PartsAt (joined (xs ++ ys)) (joined xs).length := by
  obtain ⟨xs, l, rfl⟩ := List.eq_nil_or_concat xs |>.resolve_left hx
  obtain ⟨m, ys, rfl⟩ := List.exists_cons_of_ne_nil hy
  have hmeet : l.Meets m := (List.isChain_append.mp h.2).2.2 l (by simp) m (by simp)
  rw [joined_append, Text.partsAt_append, Text.EndsLine, List.concat_eq_append,
    getLast?_joined_concat xs hmeet.1]
  refine ⟨?_, fun hfeed => ?_⟩
  · cases he : l.ending with
    | eof => exact absurd he hmeet.1
    | lf | crlf => exact Or.inl rfl
    | cr => exact Or.inr rfl
  · have hcr : l.ending = .cr := by
      cases he : l.ending <;> simp_all [Ending.toText]
    exact hmeet.2 hcr (eq_of_feed_first (h.right.1 m (by simp)) hfeed.2)

end Line

end Excerpt
