import Excerpt.Passage.Basic
import Excerpt.Proofs.Lines

/-!
Reading a document block by block. `Token.Reads` is a run of the reader: the lines it starts from,
the blocks it has made, and the lines it has left.
-/

namespace Excerpt

namespace Extent

theorem space_le (ls : List Line) : space ls ≤ ls.length := (List.takeWhile_prefix _).length_le

theorem fenced_le (f : Fence) (ls : List Line) : fenced f ls ≤ ls.length := by
  induction ls with
  | nil => simp [fenced]
  | cons l ls ih => simp only [fenced, List.length_cons]; split <;> omega

theorem indented_le (ls : List Line) : indented ls ≤ ls.length := by
  induction ls with
  | nil => simp [indented]
  | cons l ls ih => simp only [indented, List.length_cons]; split <;> split <;> omega

theorem quote_le (ls : List Line) : quote ls ≤ ls.length := by
  induction ls with
  | nil => simp [quote]
  | cons l ls ih =>
    simp only [quote, List.length_cons]
    repeat' split
    all_goals omega

theorem rows_le (ls : List Line) : rows ls ≤ ls.length := by
  induction ls with
  | nil => simp [rows]
  | cons l ls ih => simp only [rows, List.length_cons]; split <;> omega

theorem paragraph_le (ls : List Line) : (paragraph ls).1 ≤ ls.length := by
  induction ls with
  | nil => simp [paragraph]
  | cons l ls ih =>
    simp only [paragraph, List.length_cons]
    repeat' split
    all_goals simp_all

theorem list_le (kind : Char) (indent : Nat) (ls : List Line) :
    (list kind indent ls).length ≤ ls.length := by
  fun_induction list kind indent ls <;> simp_all

end Extent

namespace Opening

theorem read_table {l : Line} {ls : List Line} {header : List Text} {align : List (Option Align)}
    (h : read l ls = table header align) : tableAt? l ls = some (header, align) := by
  unfold read at h
  grind

theorem extent_le (l : Line) (ls : List Line) : (read l ls).extent ls ≤ ls.length := by
  cases h : read l ls with
  | space => exact Extent.space_le ls
  | fenced f _ => exact Extent.fenced_le f ls
  | indented => exact Extent.indented_le ls
  | heading | rule => exact Nat.zero_le _
  | quote => exact Extent.quote_le ls
  | list m => exact Extent.list_le _ _ ls
  | paragraph => exact Extent.paragraph_le ls
  | table header align =>
    -- a table has a second line, on which its first line was read
    cases ls with
    | nil => simpa [tableAt?] using read_table h
    | cons m ls => simpa [extent] using Extent.rows_le ls

end Opening

namespace Token

/-- How many lines behind its first one a block takes. -/
def reach (l : Line) (ls : List Line) : Nat := (Opening.read l ls).extent ls

/-- The block that a line starts. -/
def first (l : Line) (ls : List Line) : Token :=
  ofLines l (ls.take (reach l ls)) (Opening.read l ls)

theorem reach_le (l : Line) (ls : List Line) : reach l ls ≤ ls.length := Opening.extent_le l ls

theorem raw_first (l : Line) (ls : List Line) :
    (first l ls).raw = Line.joined (l :: ls.take (reach l ls)) := rfl

theorem areCut_reach {l : Line} {ls : List Line} (h : Line.AreCut (l :: ls)) :
    Line.AreCut (l :: ls.take (reach l ls)) ∧ Line.AreCut (ls.drop (reach l ls)) := by
  have hsplit : Line.AreCut ((l :: ls.take (reach l ls)) ++ ls.drop (reach l ls)) := by
    rwa [List.cons_append, List.take_append_drop]
  exact ⟨hsplit.left, hsplit.right⟩

theorem blocks_nil : blocks [] = [] := by rw [blocks]

theorem blocks_cons (l : Line) (ls : List Line) :
    blocks (l :: ls) = first l ls :: blocks (ls.drop (reach l ls)) := by rw [blocks]; rfl

theorem exists_eq_first {ls : List Line} {t : Token} (h : t ∈ blocks ls) :
    ∃ m ms, t = first m ms := by
  fun_induction blocks ls with
  | case1 => simp at h
  | case2 l ls o ih =>
    rcases List.mem_cons.mp h with rfl | h
    · exact ⟨l, ls, rfl⟩
    · exact ih h

/-- Reading `ls` makes the blocks `ts` and leaves `rest`. -/
inductive Reads : List Line → List Token → List Line → Prop
  | done (ls : List Line) : Reads ls [] ls
  | step {l : Line} {ls : List Line} {ts : List Token} {rest : List Line} :
      Reads (ls.drop (reach l ls)) ts rest → Reads (l :: ls) (first l ls :: ts) rest

theorem Reads.blocks_eq {ls rest : List Line} {ts : List Token} (h : Reads ls ts rest) :
    blocks ls = ts ++ blocks rest := by
  induction h with
  | done ls => rfl
  | step _ ih => rw [blocks_cons, ih, List.cons_append]

theorem reads_of_blocks {ls : List Line} {ts us : List Token} (h : blocks ls = ts ++ us) :
    ∃ rest, Reads ls ts rest ∧ blocks rest = us := by
  induction ts generalizing ls with
  | nil => exact ⟨ls, .done ls, h⟩
  | cons t ts ih =>
    cases ls with
    | nil => simp [blocks_nil] at h
    | cons l ls =>
      rw [blocks_cons, List.cons_append, List.cons.injEq] at h
      obtain ⟨rest, hr, hrest⟩ := ih h.2
      exact ⟨rest, h.1 ▸ .step hr, hrest⟩

theorem blocks_eq_nil_iff {ls : List Line} : blocks ls = [] ↔ ls = [] := by
  cases ls with
  | nil => simp [blocks_nil]
  | cons l ls => simp [blocks_cons]

theorem reads_nil_iff {ls : List Line} {ts : List Token} : Reads ls ts [] ↔ blocks ls = ts := by
  constructor
  · intro h
    simpa [blocks_nil] using h.blocks_eq
  · intro h
    have hts : blocks ls = ts ++ [] := by rw [h, List.append_nil]
    obtain ⟨rest, hr, hrest⟩ := reads_of_blocks hts
    rwa [blocks_eq_nil_iff.mp hrest] at hr

theorem Reads.own {ls rest : List Line} {ts : List Token} (h : Reads ls ts rest) :
    ∃ own, ls = own ++ rest ∧ Line.joined own = ts.flatMap raw ∧ ts.length ≤ own.length := by
  induction h with
  | done ls => exact ⟨[], rfl, rfl, Nat.le_refl _⟩
  | @step l ls ts rest _ ih =>
    obtain ⟨own, hls, hown, hlen⟩ := ih
    refine ⟨l :: ls.take (reach l ls) ++ own, ?_, ?_, ?_⟩
    · rw [List.cons_append, List.cons_append, List.append_assoc, ← hls, List.take_append_drop]
    · rw [Line.joined_append, List.flatMap_cons, hown, raw_first]
    · simp only [List.cons_append, List.length_cons, List.length_append]
      omega

theorem raw_first_ne_nil {l : Line} {ls : List Line} (h : l.IsWhole) : (first l ls).raw ≠ [] := by
  simp [raw_first, Line.joined, Line.toText_ne_nil h]

theorem Reads.raw_ne_nil {ls rest : List Line} {ts : List Token} (h : Reads ls ts rest)
    (hls : ∀ l ∈ ls, l.IsWhole) : ∀ t ∈ ts, t.raw ≠ [] := by
  induction h with
  | done ls => simp
  | @step l ls ts rest _ ih =>
    intro t ht
    rcases List.mem_cons.mp ht with rfl | ht
    · exact raw_first_ne_nil (hls l (by simp))
    · exact ih (fun m hm => hls m (List.mem_cons_of_mem _ (List.mem_of_mem_drop hm))) t ht

theorem reads_ofText (source : Text) : Reads (Text.lines source) (ofText source) [] :=
  reads_nil_iff.mpr rfl

theorem flatMap_raw_blocks (ls : List Line) : (blocks ls).flatMap raw = Line.joined ls := by
  obtain ⟨own, hls, hown, -⟩ := (reads_nil_iff.mpr rfl : Reads ls (blocks ls) []).own
  rw [← hown, hls, List.append_nil]

theorem flatMap_raw_ofText (source : Text) : (ofText source).flatMap raw = source := by
  rw [ofText, flatMap_raw_blocks, Text.joined_lines]

theorem raw_ne_nil_of_mem {source : Text} {t : Token} (h : t ∈ ofText source) : t.raw ≠ [] :=
  (reads_ofText source).raw_ne_nil (Text.lines_areCut source).1 t h

end Token

end Excerpt
