import Excerpt.Proofs.Surroundings

/-!
Sections of one depth. They lie one behind the other, so that what is found in them is what is found
in the document and lies in one of them.
-/

namespace Excerpt

theorem filter_or_eq_append {α : Type} {f g : α → Bool} {xs : List α}
    (hfg : ∀ x ∈ xs, g x = true → f x = false)
    (h : xs.Pairwise fun x y => g x = true → f y = false) :
    (xs.filter fun x => f x || g x) = xs.filter f ++ xs.filter g := by
  induction xs with
  | nil => rfl
  | cons x xs ih =>
    obtain ⟨hx, hxs⟩ := List.pairwise_cons.mp h
    have ih := ih (fun y hy => hfg y (List.mem_cons_of_mem x hy)) hxs
    cases hg : g x with
    | false => cases hf : f x <;> simp [hg, hf, ih]
    | true =>
      have hf := hfg x List.mem_cons_self hg
      have hnone : xs.filter f = [] := List.filter_eq_nil_iff.mpr fun y hy => by simp [hx y hy hg]
      simp [hg, hf, ih, hnone]

namespace Passage

open Token

/-- The first block of a section. -/
def heading (p : Passage) : Passage := ofToken p.start p.token

@[simp] theorem start_heading (p : Passage) : p.heading.start = p.start := rfl

@[simp] theorem token_heading (p : Passage) : p.heading.token = p.token := rfl

/-- Whether a passage stands in a section behind its heading. -/
def holds (q p : Passage) : Bool := q.heading.stop ≤ p.start && p.stop ≤ q.stop

theorem holds_iff {q p : Passage} :
    q.holds p = true ↔ q.start + q.token.raw.length ≤ p.start ∧ p.stop ≤ q.stop := by
  rw [holds, Bool.and_eq_true, decide_eq_true_eq, decide_eq_true_eq]
  rfl

theorem flatMap_filter_holds {qs ps : List Passage} (hqs : qs.Pairwise fun q r => q.stop ≤ r.start)
    (hps : ps.Pairwise fun p r => p.stop ≤ r.start) (hlt : ∀ p ∈ ps, p.start < p.stop) :
    qs.flatMap (fun q => ps.filter q.holds) = ps.filter fun p => qs.any fun q => q.holds p := by
  induction qs with
  | nil => simp
  | cons q qs ih =>
    obtain ⟨hq, hqs⟩ := List.pairwise_cons.mp hqs
    -- what one of the later passages holds starts behind `q`, and so does all that follows it
    have hlater {p : Passage} (hp : (qs.any fun r => r.holds p) = true) : q.stop ≤ p.start := by
      obtain ⟨r, hr, hp⟩ := List.any_eq_true.mp hp
      have hstart := hq r hr
      rw [holds_iff] at hp
      omega
    have hno {p r : Passage} (hr : r ∈ ps) (hle : p.start ≤ r.start)
        (hp : (qs.any fun r => r.holds p) = true) : q.holds r = false := by
      have hp := hlater hp
      have hr := hlt r hr
      rw [Bool.eq_false_iff, ne_eq, holds_iff]
      omega
    rw [List.flatMap_cons, ih hqs]
    simp only [List.any_cons]
    refine (filter_or_eq_append (fun p hp => hno hp (Nat.le_refl _)) ?_).symm
    refine hps.imp_of_mem fun {p r} hp hr hpr => hno hr ?_
    have hlt := hlt p hp
    omega

section Sections

variable {source : Text} {opens : Token → Bool}

theorem map_heading_sections (ps : List Passage) :
    (sections opens ps).map heading =
      (ps.filter fun p => p.token.isHeading && opens p.token).map heading := by
  induction ps with
  | nil => rfl
  | cons p ps ih =>
    rw [sections]
    split
    · rename_i h
      rw [List.map_cons, ih, List.filter_cons_of_pos (by exact h), List.map_cons]
      rfl
    · rename_i h
      rw [ih, List.filter_cons_of_neg (by exact h)]

theorem heading_of_mem_index {p : Passage} (h : p ∈ index source) : p.heading = p := by
  obtain ⟨us, t, vs, -, rfl⟩ := mem_consecutive h
  rfl

theorem map_heading_sections_index :
    (sections opens (index source)).map heading =
      (index source).filter fun p => p.token.isHeading && opens p.token := by
  rw [map_heading_sections]
  exact (List.map_congr_left fun p hp => heading_of_mem_index (List.mem_filter.mp hp).1).trans
    (List.map_id _)

variable {d : Nat} (hopens : ∀ t, opens t = true → t.depth? = some d)
include hopens

theorem section_of_mem_sections {p : Passage} (h : p ∈ sections opens (index source)) :
    p.heading ∈ index source ∧ p.token.isHeading = true ∧ opens p.token = true ∧
      p.stop = sectionEnd source p.start d ∧ p.innerList = between source p.heading.stop p.stop := by
  have hmem : p.heading ∈ (sections opens (index source)).map heading := List.mem_map_of_mem h
  rw [map_heading_sections_index, List.mem_filter, Bool.and_eq_true] at hmem
  obtain ⟨hindex, hheading, hopen⟩ := hmem
  have hfull := (isSectionOf_of_mem_sections h).isFullSection
  obtain ⟨e, he, hstop⟩ := hfull.stop_eq
  have hdepth : p.token.depth? = some d := hopens p.token hopen
  obtain rfl : e = d := by simpa [hdepth] using he.symm
  exact ⟨hindex, hheading, hopen, hstop, by rw [innerList, hfull.inner_eq]; rfl⟩

theorem apart_sections :
    (sections opens (index source)).Pairwise fun p q => p.stop ≤ q.start := by
  have hheadings : ((sections opens (index source)).map heading).Pairwise
      fun p q => p.stop ≤ q.start := by
    rw [map_heading_sections_index]
    exact apart_index.sublist List.filter_sublist
  refine (List.pairwise_map.mp hheadings).imp_of_mem fun {p q} hp hq hpq => ?_
  obtain ⟨hp, -, -, hstop, -⟩ := section_of_mem_sections hopens hp
  obtain ⟨hq, hheading, hopen, -, -⟩ := section_of_mem_sections hopens hq
  -- the heading of the later section is one that ends the section before it
  have hlt : p.heading.start < q.heading.start :=
    Nat.lt_of_lt_of_le (start_lt_stop_of_mem_index hp) hpq
  have hends : q.heading.token.ends (some d) = true := by
    simp [ends_some, hheading, hopens _ hopen]
  have hle : sectionEnd source p.start d ≤ q.heading.start := sectionEnd_le_start hq hlt hends
  rwa [hstop]

end Sections

section Items

variable {source : Text}

theorem items_filter {f : Passage → Bool} {ps : List Passage}
    (h : ∀ p ∈ ps, ∀ r ∈ placeItems p.start p.token.raw p.token.items, f r = f p) :
    items (ps.filter f) = (items ps).filter f := by
  induction ps with
  | nil => rfl
  | cons p ps ih =>
    have ih := ih fun q hq => h q (List.mem_cons_of_mem p hq)
    have hp := h p List.mem_cons_self
    have hcons : items (p :: ps) = placeItems p.start p.token.raw p.token.items ++ items ps := rfl
    rw [hcons, List.filter_append, ← ih]
    cases hf : f p with
    | true =>
      have hall : (placeItems p.start p.token.raw p.token.items).filter f =
          placeItems p.start p.token.raw p.token.items :=
        List.filter_eq_self.mpr fun r hr => (hp r hr).trans hf
      rw [List.filter_cons_of_pos hf, hall]
      rfl
    | false =>
      have hnone : (placeItems p.start p.token.raw p.token.items).filter f = [] :=
        List.filter_eq_nil_iff.mpr fun r hr => by simp [hp r hr, hf]
      rw [List.filter_cons_of_neg (by simp [hf]), hnone, List.nil_append]

theorem inside_iff_of_mem_placeItems {h p r : Passage} (hh : h ∈ index source)
    (hp : p ∈ index source) (hr : r ∈ placeItems p.start p.token.raw p.token.items) (d : Nat) :
    (h.stop ≤ r.start ∧ r.stop ≤ sectionEnd source h.start d) ↔
      (h.stop ≤ p.start ∧ p.stop ≤ sectionEnd source h.start d) := by
  obtain ⟨hle, hlt⟩ := toSpan_le_of_mem_placeItems hp hr
  refine and_congr (sides_of_le hp hle hlt hh).1 ?_
  rcases exists_of_sectionEnd source h.start d with hend | ⟨q, hq, -, -, hend⟩
  · have hstop := (isPlain_of_mem_index hp).stop_le
    rw [Span.le_def] at hle
    exact iff_of_true (hend ▸ Nat.le_trans hle.2 hstop) (hend ▸ hstop)
  · rw [hend]
    exact (sides_of_le hp hle hlt hq).2

/-- What is found among the blocks that lie between a heading and the end of its section is what is
found in the document and lies there. -/
theorem select_between {s : Segment} (hs : s.isScope = false) (hpos : s.position = none)
    {h : Passage} (hh : h ∈ index source) (d : Nat) :
    s.select (between source h.stop (sectionEnd source h.start d)) =
      (s.select (index source)).filter fun p =>
        h.stop ≤ p.start && p.stop ≤ sectionEnd source h.start d := by
  unfold Segment.isScope at hs
  unfold Segment.select
  split
  · rfl
  · rename_i hword
    simp [hword, Word.isScope] at hs
  · rw [hpos, between, items_filter, List.filter_comm]
    · rfl
    · intro p hp r hr
      rw [Bool.eq_iff_iff]
      simpa using inside_iff_of_mem_placeItems hh hp hr d
  · rw [hpos, between, List.filter_comm]
    rfl

end Items

theorem Drawn.apart {source : Text} {ps : List Passage} (h : Drawn source ps) :
    (∀ p ∈ ps, p.start < p.stop) ∧ ps.Pairwise fun p q => p.stop ≤ q.start := by
  rcases h with h | h
  · exact ⟨fun p hp => start_lt_stop_of_mem_index (h.subset hp), apart_index.sublist h⟩
  · exact ⟨fun p hp => start_lt_stop_of_mem_items (h.subset hp), apart_items_index.sublist h⟩

end Passage

namespace Selection

open Passage Segment

/-- Whether a passage lies in a section of the given depth whose heading a matcher accepts: behind the
heading and before the next heading that is not deeper. -/
def liesUnder (source : Text) (d : Nat) (m : Option Matcher) (p : Passage) : Bool :=
  (index source).any fun h =>
    h.token.isHeading && h.token.depth? == some d && Matcher.accepts? m h.token.comparable &&
      (h.stop ≤ p.start && p.stop ≤ sectionEnd source h.start d)

section Depth

variable {source : Text} {d : Nat} {s : Segment}

theorem opens_scope (t : Token) :
    s.opens (.scope (some d)) t =
      (t.isHeading && t.depth? == some d && Matcher.accepts? s.matcher t.comparable) := rfl

theorem depth?_of_opens (t : Token) (h : s.opens (.scope (some d)) t = true) :
    t.depth? = some d := by
  rw [opens_scope, Bool.and_eq_true, Bool.and_eq_true, beq_iff_eq] at h
  exact h.1.2

theorem any_holds_sections (p : Passage) :
    ((sections (s.opens (.scope (some d))) (index source)).any fun q => q.holds p) =
      liesUnder source d s.matcher p := by
  rw [Bool.eq_iff_iff, liesUnder, List.any_eq_true, List.any_eq_true]
  constructor
  · rintro ⟨q, hq, hp⟩
    obtain ⟨hindex, -, hopen, hstop, -⟩ := section_of_mem_sections depth?_of_opens hq
    rw [holds, hstop] at hp
    exact ⟨q.heading, hindex, Bool.and_eq_true_iff.mpr ⟨hopen, hp⟩⟩
  · rintro ⟨h, hh, hp⟩
    obtain ⟨hopen, hp⟩ := Bool.and_eq_true_iff.mp hp
    have hheading : h.token.isHeading = true := by
      rw [Bool.and_eq_true, Bool.and_eq_true] at hopen
      exact hopen.1.1
    have hmem : h ∈ (sections (s.opens (.scope (some d))) (index source)).map heading := by
      rw [map_heading_sections_index]
      exact List.mem_filter.mpr ⟨hh, Bool.and_eq_true_iff.mpr ⟨hheading, hopen⟩⟩
    obtain ⟨q, hq, rfl⟩ := List.mem_map.mp hmem
    obtain ⟨-, -, -, hstop, -⟩ := section_of_mem_sections depth?_of_opens hq
    exact ⟨q, hq, by rwa [holds, hstop]⟩

end Depth

/-- What a scope of one depth and a word that is no scope find: what the word finds in the document
and lies in one of the sections, in the order of the document, each passage once. -/
theorem query_section_eq_filter (source : Text) (d : Nat) (m m' : Option Matcher) (a b : Text)
    {w : Word} (hw : w.isScope = false) :
    let outer : Segment := ⟨a, some (.scope (some d)), m, none⟩
    let leaf : Segment := ⟨b, some w, m', none⟩
    let found := ((ofText source).query [leaf]).passages
    ((ofText source).query [outer, leaf]).passages = found.filter (liesUnder source d m) ∧
      (∀ p ∈ found, p.start < p.stop) ∧ found.Pairwise fun p q => p.stop ≤ q.start := by
  intro outer leaf found
  have hleaf : leaf.isScope = false := hw
  have hfound : found = leaf.select (index source) := by
    rw [← resolve_singleton]
    exact passages_ofText source [leaf]
  have hdrawn : Drawn source found := hfound ▸ drawn_select (Or.inl (List.Sublist.refl _)) hleaf
  refine ⟨?_, hdrawn.apart⟩
  have hinner : ∀ q ∈ outer.select (index source),
      resolve q.innerList [leaf] = found.filter q.holds := by
    intro q hq
    obtain ⟨hindex, -, -, hstop, hinner⟩ := section_of_mem_sections depth?_of_opens hq
    rw [resolve_singleton, hinner, hstop, hfound]
    refine (select_between hleaf rfl hindex d).trans (List.filter_congr fun p _ => ?_)
    rw [holds, hstop, start_heading]
  calc ((ofText source).query [outer, leaf]).passages
      = (outer.select (index source)).flatMap fun q => resolve q.innerList [leaf] :=
        (passages_ofText source [outer, leaf]).trans (resolve_scope rfl (by simp) _)
    _ = (outer.select (index source)).flatMap fun q => found.filter q.holds :=
        List.flatMap_congr hinner
    _ = found.filter fun p => (outer.select (index source)).any fun q => q.holds p :=
        flatMap_filter_holds (apart_sections depth?_of_opens) hdrawn.apart.2 hdrawn.apart.1
    _ = found.filter (liesUnder source d m) :=
        List.filter_congr fun p _ => any_holds_sections p

theorem query_section_eq_filter_nested :
    let m : Matcher := ⟨.contains "A".toList, false⟩
    let outer : Segment := ⟨"section1".toList, some (.scope (some 1)), some m, none⟩
    let leaf : Segment := ⟨"item".toList, some .item, none, none⟩
    let source := "# A\n- a\n## B\n- b\n# C\n- c\n".toList
    let found := ((ofText source).query [leaf]).passages
    Word.isScope .item = false ∧ found.map toSpan = [⟨4, 8⟩, ⟨13, 17⟩, ⟨21, 25⟩] ∧
      ((ofText source).query [outer, leaf]).passages.map toSpan = [⟨4, 8⟩, ⟨13, 17⟩] ∧
      ((ofText source).query [outer, leaf]).passages = found.filter (liesUnder source 1 (some m)) := by
  intro m outer leaf source found
  exact ⟨rfl, by decide +kernel, by decide +kernel,
    (query_section_eq_filter source 1 (some m) none _ _ rfl).1⟩

end Selection

end Excerpt
