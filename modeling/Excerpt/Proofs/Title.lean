import Excerpt.Proofs.Lookahead
import Excerpt.Proofs.Markers

/-!
Headings as borders. No block before a heading takes lines from behind its start, and an unindented
line of hashes ends every block before it but an open fence.
-/

namespace Excerpt

namespace Text

theorem dropEndWhile_cons {p : Char → Bool} {c : Char} (hc : p c = false) (r : Text) :
    dropEndWhile p (c :: r) = c :: dropEndWhile p r := by
  simp only [dropEndWhile, List.reverse_cons, List.dropWhile_append]
  cases h : r.reverse.dropWhile p with
  | nil => simp [hc]
  | cons d s => simp

theorem strip_append {pre : Text} {c : Char} {r : Text} (hpre : ∀ b ∈ pre, isBlank b = true)
    (hc : isBlank c = false) : strip (pre ++ c :: r) = c :: stripEnd r := by
  rw [strip, List.dropWhile_append_of_pos hpre, List.dropWhile_cons_of_neg (by simp [hc])]
  exact dropEndWhile_cons hc r

end Text

namespace Row

theorem dropOuterPipes_hash (r : Text) : ∃ s, dropOuterPipes ('#' :: r) = '#' :: s := by
  change ∃ s, (if ('#' :: r).getLast? == some '|' && !escapesNext ('#' :: r).dropLast then
    ('#' :: r).dropLast else '#' :: r) = '#' :: s
  split
  · cases r with
    | nil => simp_all
    | cons c r => exact ⟨(c :: r).dropLast, rfl⟩
  · exact ⟨r, rfl⟩

theorem splitFrom_hash (odd : Bool) (r : Text) :
    ∃ cell cs, splitFrom odd ('#' :: r) = ('#' :: cell) :: cs := by
  rw [splitFrom, if_neg (by simp)]
  split
  · exact ⟨[], [], rfl⟩
  · exact ⟨_, _, rfl⟩

theorem cells_hash {line r : Text} (h : Text.strip line = '#' :: r) :
    ∃ cell cs, cells line = ('#' :: cell) :: cs := by
  obtain ⟨s, hs⟩ := dropOuterPipes_hash r
  obtain ⟨cell, cs, hcs⟩ := splitFrom_hash false s
  have hstrip : Text.strip ('#' :: cell) = '#' :: Text.stripEnd cell := by
    rw [← List.nil_append ('#' :: cell)]
    exact Text.strip_append (by simp) (by decide)
  rw [cells, h, hs, hcs, List.map_cons, hstrip]
  exact ⟨_, _, by rw [unescape]; simp⟩

end Row

namespace Heading

theorem dropWhile_of_hashed {line : Text} (h : (hashed? line).isSome = true) :
    ∃ r, line.dropWhile (· == ' ') = '#' :: r := by
  unfold hashed? unindented? at h
  split at h
  · simp at h
  · rename_i t ht
    obtain ⟨-, rfl⟩ : _ ∧ line.dropWhile (· == ' ') = t := by simpa using ht
    cases hd : line.dropWhile (· == ' ') with
    | nil => simp [hd] at h
    | cons c r =>
      by_cases hc : c = '#'
      · exact ⟨r, by rw [hc]⟩
      · simp [hd, hc] at h

theorem strip_of_hashed {line : Text} (h : (hashed? line).isSome = true) :
    ∃ r, Text.strip line = '#' :: r := by
  obtain ⟨r, hr⟩ := dropWhile_of_hashed h
  have hlead : ∀ c ∈ line.takeWhile (· == ' '), Text.isBlank c = true := by
    intro c hc
    have hspace : c = ' ' := by simpa using List.mem_takeWhile_imp hc
    rw [hspace]
    decide
  rw [← List.takeWhile_append_dropWhile (p := (· == ' ')) (l := line), hr]
  exact ⟨_, Text.strip_append hlead (by decide)⟩

end Heading

theorem tableHead?_hashed (first : Text) {second : Text}
    (h : (Heading.hashed? second).isSome = true) : tableHead? first second = none := by
  obtain ⟨r, hr⟩ := Heading.strip_of_hashed h
  obtain ⟨cell, cs, hcs⟩ := Row.cells_hash hr
  simp [tableHead?, hcs, Align.isDelimiter]

theorem tableAt?_hashed (l : Line) {m : Line} (ls : List Line)
    (h : (Heading.hashed? m.body).isSome = true) : tableAt? l (m :: ls) = none :=
  tableHead?_hashed l.body h

namespace Token

theorem kind_first (l : Line) (ls : List Line) :
    (first l ls).kind = ((Opening.read l ls).content l (ls.take (reach l ls))).kind := rfl

theorem read_of_isHeading {l : Line} {ls : List Line} (h : (first l ls).isHeading = true) :
    (Heading.hashed? l.body).isSome = true ∨ Opening.read l ls = .paragraph := by
  rw [isHeading, kind_first] at h
  cases hr : Opening.read l ls with
  | heading d t => exact Or.inl (by rw [Opening.read_heading hr]; rfl)
  | paragraph => exact Or.inr rfl
  | space | fenced | indented | rule | quote | list | table =>
    simp [hr, Opening.content, Content.kind] at h

/-- A line that leans on a heading is no block of its own: it takes the heading's first line. -/
theorem not_reads_of_leansOn {x y : Line} {ys : List Line} {us : List Token}
    (hb : x.isBlank = false) (hx : x.LeansOn (y :: ys)) (hy : (first y ys).isHeading = true) :
    ¬ Reads (x :: y :: ys) us (y :: ys) := by
  intro h
  have hzero : reach x (y :: ys) = 0 := by
    cases h with
    | step h =>
      rw [← List.nil_append (y :: ys)] at h ⊢
      exact Nat.le_zero.mp h.reach_le_left
  rcases Opening.read_of_leansOn hb hx with ⟨m, hm⟩ | ⟨header, align, ht⟩
  · rcases read_of_isHeading hy with hhash | hpar
    · have htable := hx.table.2.2.2
      rw [tableAt?_hashed x ys hhash] at htable
      exact Bool.false_ne_true htable
    · -- the first line of an underlined heading carries the list on
      obtain ⟨hblank, -, -, hrule, -, hmarker, -⟩ := Opening.read_paragraph hpar
      have hgo := Opening.interrupts_of_read_paragraph hpar
      rw [reach, hm] at hzero
      by_cases hi : m.contentIndent ≤ Text.columns y.body <;>
        simp [Opening.extent, Extent.list, hblank, hrule, hmarker, hgo, hi] at hzero
  · rw [reach, ht] at hzero
    simp [Opening.extent] at hzero

/-- What is read before a heading is read without it, too. -/
theorem Reads.before_heading {xs ys : List Line} {ts : List Token} (h : Reads (xs ++ ys) ts ys)
    (hy : ∀ t ∈ (blocks ys).head?, t.isHeading = true) : Reads xs ts [] := by
  refine h.cutoff fun x us hb hx => ?_
  cases ys with
  | nil => exact absurd hx x.not_leansOn_nil
  | cons y ys =>
    rw [blocks_cons] at hy
    exact not_reads_of_leansOn hb hx (hy _ rfl)

end Token

namespace Line

/-- A heading of hashes without indentation. -/
def isTitle (l : Line) : Bool := l.body.head? == some '#' && (Heading.hashed? l.body).isSome

theorem isTitle_iff {l : Line} :
    l.isTitle = true ↔ (∃ r, l.body = '#' :: r) ∧ (Heading.hashed? l.body).isSome = true := by
  simp [isTitle, List.head?_eq_some_iff]

section Title

variable {l : Line} (h : l.isTitle = true)
include h

theorem columns_of_isTitle : Text.columns l.body = 0 := by
  obtain ⟨⟨r, hr⟩, -⟩ := isTitle_iff.mp h
  rw [hr]
  rfl

theorem isBlank_of_isTitle : l.isBlank = false := by
  obtain ⟨⟨r, hr⟩, -⟩ := isTitle_iff.mp h
  simp [isBlank, hr, show Text.isBlank '#' = false by decide]

theorem isIndented_of_isTitle : isIndented l.body = false := by
  simp [isIndented, columns_of_isTitle h]

theorem interrupts_of_isTitle (ls : List Line) : l.interrupts ls = true := by
  simp [interrupts, opensBlock, isIndented_of_isTitle h, (isTitle_iff.mp h).2]

theorem isRule_of_isTitle : isRule l.body = false := by
  obtain ⟨⟨r, hr⟩, -⟩ := isTitle_iff.mp h
  rw [hr]
  rfl

theorem quoted?_of_isTitle : quoted? l.body = none := by
  obtain ⟨⟨r, hr⟩, -⟩ := isTitle_iff.mp h
  rw [hr]
  rfl

theorem underline?_of_isTitle : Heading.underline? l.body = none := by
  obtain ⟨⟨r, hr⟩, -⟩ := isTitle_iff.mp h
  rw [hr]
  rfl

theorem marker_of_isTitle : Marker.read? l.body = none := by
  obtain ⟨⟨r, hr⟩, -⟩ := isTitle_iff.mp h
  rw [hr]
  rfl

theorem opensBlock_of_isTitle : l.opensBlock = true := by
  simp [opensBlock, isIndented_of_isTitle h, (isTitle_iff.mp h).2]

end Title

/-- Lines that are none or start with an unindented heading. -/
def StartTitled (ls : List Line) : Prop := ∀ l ∈ ls.head?, l.isTitle = true

theorem interrupts_append_titled (l : Line) (xs : List Line) {ys : List Line} (hy : StartTitled ys) :
    l.interrupts (xs ++ ys) = l.interrupts xs := by
  cases xs with
  | cons x xs => rfl
  | nil =>
    cases ys with
    | nil => rfl
    | cons y ys =>
      have hnone := tableAt?_hashed l ys (isTitle_iff.mp (hy y rfl)).2
      simp only [List.nil_append, interrupts, hnone]
      rfl

end Line

namespace Extent

open Line

variable {ys : List Line} (hy : StartTitled ys)
include hy

theorem space_append_titled (xs : List Line) : space (xs ++ ys) = space xs := by
  cases ys with
  | nil => simp
  | cons y ys =>
    have hb := isBlank_of_isTitle (hy y rfl)
    simp only [space, List.takeWhile_append, List.takeWhile_cons, hb, Bool.false_eq_true, if_false]
    split <;> simp_all

theorem indented_append_titled (xs : List Line) : indented (xs ++ ys) = indented xs := by
  induction xs with
  | cons l xs ih => simp only [List.cons_append, indented, ih]
  | nil =>
    cases ys with
    | nil => rfl
    | cons y ys =>
      have h := hy y rfl
      simp [indented, isBlank_of_isTitle h, isIndented_of_isTitle h]

theorem quote_append_titled (xs : List Line) : quote (xs ++ ys) = quote xs := by
  induction xs with
  | cons l xs ih => simp only [List.cons_append, quote, ih, l.interrupts_append_titled xs hy]
  | nil =>
    cases ys with
    | nil => rfl
    | cons y ys =>
      have h := hy y rfl
      simp [quote, quoted?_of_isTitle h, interrupts_of_isTitle h]

theorem rows_append_titled (xs : List Line) : rows (xs ++ ys) = rows xs := by
  induction xs with
  | cons l xs ih => simp only [List.cons_append, rows, ih]
  | nil =>
    cases ys with
    | nil => rfl
    | cons y ys => simp [rows, opensBlock_of_isTitle (hy y rfl)]

theorem paragraph_append_titled (xs : List Line) : paragraph (xs ++ ys) = paragraph xs := by
  induction xs with
  | cons l xs ih => simp only [List.cons_append, paragraph, ih, l.interrupts_append_titled xs hy]
  | nil =>
    cases ys with
    | nil => rfl
    | cons y ys =>
      have h := hy y rfl
      simp [paragraph, underline?_of_isTitle h, interrupts_of_isTitle h]

theorem resumes_append_titled (kind : Char) {indent : Nat} (hi : 0 < indent) (xs : List Line) :
    resumes kind indent ((xs ++ ys).dropWhile isBlank) =
      resumes kind indent (xs.dropWhile isBlank) := by
  rw [List.dropWhile_append]
  cases hd : xs.dropWhile isBlank with
  | cons x xs => rfl
  | nil =>
    cases ys with
    | nil => rfl
    | cons y ys =>
      have h := hy y rfl
      rw [List.isEmpty_nil, if_pos rfl, List.dropWhile_cons_of_neg (by simp [isBlank_of_isTitle h])]
      simp [resumes, columns_of_isTitle h, marker_of_isTitle h]
      omega

theorem list_append_titled (kind : Char) {indent : Nat} (hi : 0 < indent) (xs : List Line) :
    list kind indent (xs ++ ys) = list kind indent xs := by
  induction xs generalizing indent with
  | nil =>
    cases ys with
    | nil => rfl
    | cons y ys =>
      have h := hy y rfl
      simp [list, isBlank_of_isTitle h, columns_of_isTitle h, isRule_of_isTitle h,
        marker_of_isTitle h, interrupts_of_isTitle h]
      omega
  | cons l xs ih =>
    simp only [List.cons_append, list, resumes_append_titled hy kind hi, ih hi,
      l.interrupts_append_titled xs hy]
    cases hm : Marker.read? l.body with
    | none => rfl
    | some m => simp only [ih (Marker.contentIndent_pos hm)]

omit hy in
theorem fenced_append_closed {f : Fence} {xs : List Line}
    (h : xs.any (fun l => f.closedBy l.body) = true) (ys : List Line) :
    fenced f (xs ++ ys) = fenced f xs := by
  induction xs with
  | nil => simp at h
  | cons l xs ih =>
    simp only [List.cons_append, fenced]
    split
    · rfl
    · rename_i hl
      rw [ih (by simpa [hl] using h)]

end Extent

theorem Fence.isBlank_of_opening {l : Line} {r : Fence × Text} (h : opening? l.body = some r) :
    l.isBlank = false := by
  by_contra hb
  have hall : ∀ c ∈ l.body, Text.isBlank c = true := by simpa [Line.isBlank] using hb
  simp [opening?, List.dropWhile_eq_nil_iff.mpr hall] at h

theorem Extent.any_closedBy_take {f : Fence} {ls : List Line} (h : fenced f ls < ls.length) :
    (ls.take (fenced f ls)).any (fun l => f.closedBy l.body) = true := by
  induction ls with
  | nil => simp at h
  | cons l ls ih =>
    by_cases hl : f.closedBy l.body
    · simp [fenced, hl]
    · simp only [fenced, hl, Bool.false_eq_true, if_false, List.length_cons] at h
      simp [fenced, hl, ih (by omega)]

namespace Opening

theorem read_fenced {l : Line} {ls : List Line} {f : Fence} {info : Text}
    (h : read l ls = fenced f info) : ∃ s, Fence.opening? l.body = some (f, s) := by
  unfold read at h
  grind

theorem read_list {l : Line} {ls : List Line} {m : Marker} (h : read l ls = list m) :
    Marker.read? l.body = some m := by
  unfold read at h
  repeat' split at h
  all_goals simp_all

theorem read_of_opening {l : Line} {f : Fence} {info : Text} (ls : List Line)
    (h : Fence.opening? l.body = some (f, info)) : read l ls = fenced f (Text.strip info) := by
  simp [read, Fence.isBlank_of_opening h, h]

end Opening

namespace Token

/-- Whether a block is a fenced one that nothing closes. -/
def isOpenFence (t : Token) : Bool :=
  match Text.lines t.raw with
  | [] => false
  | l :: ls =>
    match Fence.opening? l.body with
    | some (f, _) => !ls.any fun m => f.closedBy m.body
    | none => false

theorem lines_raw_first {l : Line} {ls : List Line} (h : Line.AreCut (l :: ls)) :
    Text.lines (first l ls).raw = l :: ls.take (reach l ls) := by
  rw [raw_first, Text.lines_joined (areCut_reach h).1]

theorem isOpenFence_first_of_lt {l : Line} {ls : List Line} (h : Line.AreCut (l :: ls))
    (hlt : reach l ls < ls.length) : (first l ls).isOpenFence = false := by
  rw [isOpenFence, lines_raw_first h]
  cases hf : Fence.opening? l.body with
  | none => simp [hf]
  | some r =>
    obtain ⟨f, info⟩ := r
    have hreach : reach l ls = Extent.fenced f ls := by
      rw [reach, Opening.read_of_opening ls hf]
      rfl
    rw [hreach] at hlt ⊢
    simpa [hf] using Extent.any_closedBy_take hlt

theorem closed_of_read_fenced {l : Line} {ls : List Line} {f : Fence} {info : Text}
    (h : Line.AreCut (l :: ls)) (hopen : (first l ls).isOpenFence = false)
    (hr : Opening.read l ls = .fenced f info) : ls.any (fun m => f.closedBy m.body) = true := by
  obtain ⟨s, hf⟩ := Opening.read_fenced hr
  rw [isOpenFence, lines_raw_first h] at hopen
  simp only [hf, Bool.not_eq_false', List.any_eq_true] at hopen ⊢
  obtain ⟨m, hm, hclosed⟩ := hopen
  exact ⟨m, List.mem_of_mem_take hm, hclosed⟩

variable {ys : List Line} (hy : Line.StartTitled ys)
include hy

theorem read_append_titled (l : Line) (xs : List Line) :
    Opening.read l (xs ++ ys) = Opening.read l xs := by
  cases xs with
  | cons x xs => rfl
  | nil =>
    refine (Opening.read_nil fun header align ht => ?_).symm
    have hsome := Opening.read_table ht
    cases ys with
    | nil => simp [tableAt?] at hsome
    | cons y ys =>
      rw [List.nil_append, tableAt?_hashed l ys (Line.isTitle_iff.mp (hy y rfl)).2] at hsome
      simp at hsome

theorem reach_append_titled {l : Line} {xs : List Line} (h : Line.AreCut (l :: xs))
    (hopen : (first l xs).isOpenFence = false) : reach l (xs ++ ys) = reach l xs := by
  rw [reach, reach, read_append_titled hy]
  cases hr : Opening.read l xs with
  | space => exact Extent.space_append_titled hy xs
  | fenced f info => exact Extent.fenced_append_closed (closed_of_read_fenced h hopen hr) ys
  | indented => exact Extent.indented_append_titled hy xs
  | heading | rule => rfl
  | quote => exact Extent.quote_append_titled hy xs
  | paragraph => exact congrArg Prod.fst (Extent.paragraph_append_titled hy xs)
  | list m =>
    have hm : Marker.read? l.body = some m := Opening.read_list hr
    exact congrArg List.length (Extent.list_append_titled hy _ (Marker.contentIndent_pos hm) xs)
  | table header align =>
    cases xs with
    | nil => simpa [tableAt?] using Opening.read_table hr
    | cons x xs => exact congrArg (· + 1) (Extent.rows_append_titled hy xs)

/-- What is read up to the end is read the same way before an unindented heading. -/
theorem Reads.append_titled {xs : List Line} {ts : List Token} (h : Reads xs ts [])
    (hx : Line.AreCut xs) (hopen : ∀ t ∈ ts.getLast?, t.isOpenFence = false) :
    Reads (xs ++ ys) ts ys := by
  generalize hrest : ([] : List Line) = rest at h
  induction h with
  | done ls =>
    subst hrest
    exact .done ys
  | @step l ls ts rest h ih =>
    subst hrest
    have hfirst : (first l ls).isOpenFence = false := by
      cases ts with
      | nil => exact hopen _ rfl
      | cons t ts =>
        refine isOpenFence_first_of_lt hx (Nat.lt_of_not_le fun hle => ?_)
        rw [List.drop_of_length_le hle] at h
        cases h
    have hreach := reach_append_titled hy hx hfirst
    have htail := ih (areCut_reach hx).2 (fun t ht => hopen t (by cases ts <;> simp_all)) rfl
    rw [List.cons_append]
    have hle : reach l (ls ++ ys) ≤ ls.length := hreach ▸ reach_le l ls
    rw [first_append hle hreach.symm]
    refine .step ?_
    rwa [hreach, List.drop_append_of_le_length (reach_le l ls)]

end Token

end Excerpt
