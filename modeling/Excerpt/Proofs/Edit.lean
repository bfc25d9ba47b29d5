import Excerpt.Proofs.Shift
import Excerpt.Selection.Replace

/-!
Edits of sections. Where a section is replaced by text that starts with a heading, the blocks around
it stay as they were.
-/

namespace Excerpt

/-- Whether a text starts with an unindented heading of hashes. -/
def Text.startsTitled (t : Text) : Bool := (Text.lines t).head?.any Line.isTitle

namespace Line

theorem startTitled_of_startsTitled {t : Text} (h : t.startsTitled = true) :
    StartTitled (Text.lines t) := by
  intro l hl
  rw [Option.mem_def] at hl
  simpa [Text.startsTitled, hl] using h

theorem StartTitled.append {xs ys : List Line} (hx : StartTitled xs) (hy : StartTitled ys) :
    StartTitled (xs ++ ys) := by
  cases xs with
  | nil => exact hy
  | cons x xs => exact hx

theorem meets_of_isTitle {l m : Line} (hl : l.ending ≠ .eof) (hm : m.isTitle = true) :
    l.Meets m := by
  refine ⟨hl, fun _ he => ?_⟩
  subst he
  simp [isTitle] at hm

theorem AreCut.append_titled {xs ys : List Line} (hx : AreCut xs) (hy : AreCut ys)
    (hend : ∀ l ∈ xs.getLast?, l.ending ≠ .eof) (htitle : StartTitled ys) : AreCut (xs ++ ys) :=
  hx.append hy fun l hl m hm => meets_of_isTitle (hend l hl) (htitle m hm)

theorem AreCut.ending_left {xs ys : List Line} (h : AreCut (xs ++ ys)) (hy : ys ≠ []) :
    ∀ l ∈ xs.getLast?, l.ending ≠ .eof := by
  intro l hl
  obtain ⟨m, ys, rfl⟩ := List.exists_cons_of_ne_nil hy
  exact ((List.isChain_append.mp h.2).2.2 l hl m rfl).1

end Line

namespace Token

theorem Reads.closed {xs ys : List Line} {ts : List Token} (h : Reads xs ts ys)
    (hx : Line.AreCut xs) (hy : ys ≠ []) : ∀ t ∈ ts.getLast?, t.isOpenFence = false := by
  induction h with
  | done => simp
  | @step l ls ts ys h ih =>
    intro t ht
    cases ts with
    | cons u ts => exact ih (areCut_reach hx).2 hy t (by simpa using ht)
    | nil =>
      obtain rfl : first l ls = t := by simpa using ht
      refine isOpenFence_first_of_lt hx (Nat.lt_of_not_le fun hle => ?_)
      rw [List.drop_of_length_le hle] at h
      cases h
      exact hy rfl

end Token

namespace Passage

open Token

section Sides

variable {source : Text} {us vs : List Token} (h : Token.ofText source = us ++ vs)
include h

theorem filter_stop_le_span :
    ((index source).filter fun q => q.stop ≤ span us).map Passage.token = us := by
  have hv : ∀ v ∈ vs, v.raw ≠ [] := fun v hv => raw_ne_nil_of_mem (h ▸ List.mem_append_right us hv)
  have hleft : (consecutive 0 us).filter (fun q => q.stop ≤ span us) = consecutive 0 us :=
    List.filter_eq_self.mpr fun q hq => by simpa using (bounds_of_mem_consecutive hq).2
  have hright : (consecutive (0 + span us) vs).filter (fun q => q.stop ≤ span us) = [] := by
    refine List.filter_eq_nil_iff.mpr fun q hq => ?_
    have hq' := bounds_of_mem_consecutive hq
    have hlt := start_lt_stop_of_mem_consecutive hv hq
    simp only [decide_eq_true_eq]
    omega
  rw [index, h, consecutive_append, List.filter_append, hleft, hright, List.append_nil,
    map_token_consecutive]

theorem filter_span_le_start :
    ((index source).filter fun q => span us ≤ q.start).map Passage.token = vs := by
  have hu : ∀ u ∈ us, u.raw ≠ [] := fun u hu => raw_ne_nil_of_mem (h ▸ List.mem_append_left vs hu)
  have hleft : (consecutive 0 us).filter (fun q => span us ≤ q.start) = [] := by
    refine List.filter_eq_nil_iff.mpr fun q hq => ?_
    have hq' := bounds_of_mem_consecutive hq
    have hlt := start_lt_stop_of_mem_consecutive hu hq
    simp only [decide_eq_true_eq]
    omega
  have hright : (consecutive (0 + span us) vs).filter (fun q => span us ≤ q.start) =
      consecutive (0 + span us) vs :=
    List.filter_eq_self.mpr fun q hq => by simpa using (bounds_of_mem_consecutive hq).1
  rw [index, h, consecutive_append, List.filter_append, hleft, hright, List.nil_append,
    map_token_consecutive]

end Sides

end Passage

namespace Selection

open Passage Token

theorem replace_singleton (source content : Text) (p : Passage) :
    (Selection.mk source [p]).replace content =
      source.take p.start ++ content ++ source.drop p.stop := by
  simp [replace, replaced, inOrder, outermost, splice]

/-- Text for a section: none, or lines that start with a heading and leave no fence open. -/
def IsSectional (c : Text) : Prop :=
  c = [] ∨ c.startsTitled = true ∧ c.EndsLine ∧
    ∀ t ∈ (Token.ofText c).getLast?, t.isOpenFence = false

theorem IsSectional.lines {c : Text} (h : IsSectional c) :
    Line.StartTitled (Text.lines c) ∧ (∀ l ∈ (Text.lines c).getLast?, l.ending ≠ .eof) ∧
      ∀ t ∈ (Token.ofText c).getLast?, t.isOpenFence = false := by
  rcases h with rfl | ⟨htitle, hend, hopen⟩
  · simp [Text.lines, Line.StartTitled, Token.ofText, blocks_nil]
  · refine ⟨Line.startTitled_of_startsTitled htitle, ?_, hopen⟩
    exact Line.ending_of_endsLine (Text.lines_areCut c) (by rwa [Text.joined_lines])

theorem ofText_between {xs ys zs : List Line} {us : List Token} {c : Text} (hc : IsSectional c)
    (hcut : Line.AreCut (xs ++ ys)) (hne : ys ≠ []) (hreads : Reads (xs ++ ys) us ys)
    (hheading : ∀ t ∈ (blocks ys).head?, t.isHeading = true) (hzcut : Line.AreCut zs)
    (hzs : Line.StartTitled zs) :
    Token.ofText (Line.joined xs ++ c ++ Line.joined zs) = us ++ (Token.ofText c ++ blocks zs) := by
  obtain ⟨htitle, hend, hopen⟩ := hc.lines
  have hmid : Reads (Text.lines c ++ zs) (Token.ofText c) zs :=
    (reads_ofText c).append_titled hzs (Text.lines_areCut c) hopen
  have hmidcut : Line.AreCut (Text.lines c ++ zs) :=
    (Text.lines_areCut c).append_titled hzcut hend hzs
  have hall : Reads (xs ++ (Text.lines c ++ zs)) us (Text.lines c ++ zs) :=
    (hreads.before_heading hheading).append_titled (htitle.append hzs) hcut.left
      (hreads.closed hcut hne)
  have hallcut : Line.AreCut (xs ++ (Text.lines c ++ zs)) :=
    hcut.left.append_titled hmidcut (hcut.ending_left hne) (htitle.append hzs)
  have hjoined : Line.joined xs ++ c ++ Line.joined zs =
      Line.joined (xs ++ (Text.lines c ++ zs)) := by
    rw [Line.joined_append, Line.joined_append, Text.joined_lines, List.append_assoc]
  rw [hjoined, Token.ofText, Text.lines_joined hallcut, hall.blocks_eq, hmid.blocks_eq]

/-- Replacing a section by sectional text changes the blocks of the section alone, if behind it comes
the end of the document or an unindented heading of hashes. -/
theorem ofText_replace_section {source : Text} {ss : List Segment} (hne : ss ≠ [])
    (hss : ∀ s ∈ ss, s.isScope = true) {p : Passage} (hp : p ∈ ((ofText source).query ss).passages)
    (hend : p.stop = source.length ∨ Text.startsTitled (source.drop p.stop) = true) {c : Text}
    (hc : IsSectional c) :
    Token.ofText ((Selection.mk source [p]).replace c) =
      ((index source).filter fun q => q.stop ≤ p.start).map Passage.token ++
        (Token.ofText c ++ ((index source).filter fun q => p.stop ≤ q.start).map Passage.token) := by
  obtain ⟨us, t, vs, ws, hts, rfl, ht, -, -⟩ := isSectionOf_of_mem_query hne hss hp
  have hall : Token.ofText source = (us ++ t :: vs) ++ ws := by simp [hts]
  have hstart : (sectionAt (0 + span us) t vs).start = span us := Nat.zero_add _
  have hstop : (sectionAt (0 + span us) t vs).stop = span (us ++ t :: vs) := by simp
  rw [replace_singleton, hstart, hstop, filter_stop_le_span hts, filter_span_le_start hall]
  rw [hstop, drop_span hall] at hend
  rw [take_span hts, drop_span hall]
  -- the lines before the section, of it and behind it
  rw [← List.cons_append] at hts
  obtain ⟨xs, own, zs, hlines, hxs, -, hreads, hmid, rfl⟩ := parts_of_ofText hts
  have hcut : Line.AreCut (xs ++ (own ++ zs)) := hlines ▸ Text.lines_areCut source
  have hzcut : Line.AreCut zs := hcut.right.right
  have hblocks := hmid.blocks_eq
  have hys : own ++ zs ≠ [] := by
    intro hnil
    simp [hnil, blocks_nil] at hblocks
  have hheading : ∀ u ∈ (blocks (own ++ zs)).head?, u.isHeading = true := by
    rw [hblocks]
    rintro u ⟨⟩
    exact ht
  have htitled : Line.StartTitled zs := by
    rw [flatMap_raw_blocks] at hend
    rcases hend with hend | hend
    · have hnil : Line.joined zs = [] := by
        rw [← flatMap_raw_blocks, ← List.length_eq_zero_iff]
        have hlength := length_eq_span hall
        simp only [span] at hend hlength ⊢
        omega
      simp [(Line.joined_eq_nil_iff hzcut).mp hnil, Line.StartTitled]
    · simpa [Text.lines_joined hzcut] using Line.startTitled_of_startsTitled hend
  rw [← hxs, flatMap_raw_blocks]
  exact ofText_between hc hcut hys hreads hheading hzcut htitled

theorem ofText_replace_section_nested :
    let ss : List Segment := [⟨"section".toList, some (.scope none), none, none⟩]
    let source := "x\n# A\n## B\n# C\n".toList
    let c := "# D\ny\n".toList
    IsSectional c ∧ ∃ p ∈ ((ofText source).query ss).passages, p.start = 2 ∧ p.stop = 11 ∧
      Text.startsTitled (source.drop p.stop) = true ∧
      Token.ofText ((Selection.mk source [p]).replace c) =
        ((index source).filter fun q => q.stop ≤ p.start).map Passage.token ++
          (Token.ofText c ++ ((index source).filter fun q => p.stop ≤ q.start).map Passage.token) := by
  intro ss source c
  have hopen : (Token.ofText c).getLast?.all (fun t => !t.isOpenFence) = true := by decide +kernel
  have hc : IsSectional c :=
    Or.inr ⟨by decide, Or.inl (by decide), by simpa [Option.all_eq_true] using hopen⟩
  have hmem : (2, 11) ∈ ((ofText source).query ss).passages.map fun p => (p.start, p.stop) := by
    decide +kernel
  obtain ⟨p, hp, he⟩ := List.mem_map.mp hmem
  obtain ⟨hstart, hstop⟩ := Prod.mk.inj he
  have hend : Text.startsTitled (source.drop p.stop) = true := by
    rw [hstop]
    decide
  exact ⟨hc, p, hp, hstart, hstop, hend,
    ofText_replace_section (by decide) (by decide) hp (Or.inr hend) hc⟩

end Selection

end Excerpt
