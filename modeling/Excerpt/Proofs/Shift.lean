import Excerpt.Proofs.Sections
import Excerpt.Proofs.Title
import Excerpt.Selection.Basic

/-!
Moving passages. Resolution looks at the tokens and their order alone, so it gives the same passages
at whatever offset they stand.
-/

namespace Excerpt

namespace Passage

mutual

/-- The same passage, so many characters further on, with the passages inside it. -/
def shift (k : Nat) : Passage → Passage
  | ⟨t, start, stop, inner⟩ => ⟨t, k + start, k + stop, shiftInner k inner⟩

def shiftInner (k : Nat) : Option (List Passage) → Option (List Passage)
  | none => none
  | some ps => some (shiftAll k ps)

def shiftAll (k : Nat) : List Passage → List Passage
  | [] => []
  | p :: ps => p.shift k :: shiftAll k ps

end

theorem shiftAll_eq_map (k : Nat) (ps : List Passage) : shiftAll k ps = ps.map (shift k) := by
  induction ps with
  | nil => rfl
  | cons p ps ih => rw [shiftAll, ih, List.map_cons]

section Fields

variable (k : Nat) (p : Passage)

@[simp] theorem token_shift : (p.shift k).token = p.token := by cases p; rfl

@[simp] theorem start_shift : (p.shift k).start = k + p.start := by cases p; rfl

@[simp] theorem stop_shift : (p.shift k).stop = k + p.stop := by cases p; rfl

@[simp] theorem inner_shift : (p.shift k).inner = p.inner.map (List.map (shift k)) := by
  obtain ⟨t, start, stop, inner⟩ := p
  cases inner with
  | none => rfl
  | some ps => exact congrArg some (shiftAll_eq_map k ps)

end Fields

attribute [ext] Passage

theorem shift_ofToken (k start : Nat) (t : Token) :
    (ofToken start t).shift k = ofToken (k + start) t := by
  apply Passage.ext <;> simp [ofToken, Nat.add_assoc]

theorem map_shift_consecutive (k start : Nat) (ts : List Token) :
    (consecutive start ts).map (shift k) = consecutive (k + start) ts := by
  induction ts generalizing start with
  | nil => rfl
  | cons t ts ih => simp [consecutive, shift_ofToken, ih, Nat.add_assoc]

theorem placeItems_shift (k start : Nat) (rest : Text) (ts : List Token) :
    placeItems (k + start) rest ts = (placeItems start rest ts).map (shift k) := by
  induction ts generalizing start rest with
  | nil => rfl
  | cons t ts ih =>
    simp only [placeItems]
    cases Text.before? t.raw rest with
    | none => exact ih start rest
    | some n => simp [shift_ofToken, ← ih, Nat.add_assoc]

theorem items_map_shift (k : Nat) (ps : List Passage) :
    items (ps.map (shift k)) = (items ps).map (shift k) := by
  simp [items, List.flatMap_map, List.map_flatMap, placeItems_shift]

theorem body_map_shift (k : Nat) (p : Passage) (ps : List Passage) :
    (p.shift k).body (ps.map (shift k)) = (p.body ps).map (shift k) := by
  simp [body, List.takeWhile_map, Function.comp_def]

theorem asSection_map_shift (k : Nat) (p : Passage) (ps : List Passage) :
    (p.shift k).asSection (ps.map (shift k)) = (p.asSection ps).shift k := by
  apply Passage.ext
  · simp [asSection]
  · simp [asSection]
  · simp only [asSection, body_map_shift, stop_shift, List.getLast?_map, Option.map_map]
    cases (p.body ps).getLast? <;> simp
  · simp [asSection, body_map_shift]

theorem sections_map_shift (opens : Token → Bool) (k : Nat) (ps : List Passage) :
    sections opens (ps.map (shift k)) = (sections opens ps).map (shift k) := by
  induction ps with
  | nil => rfl
  | cons p ps ih =>
    simp only [List.map_cons, sections, token_shift, asSection_map_shift, ih]
    split <;> rfl

end Passage

namespace Position

theorem pick_map {α β : Type} (f : α → β) (p : Position) (xs : List α) :
    p.pick (xs.map f) = (p.pick xs).map f := by
  cases p with
  | index i =>
    simp only [pick, List.length_map, List.getElem?_map]
    generalize (if i < 0 then i + xs.length else i) = j
    split
    · cases xs[j.toNat]? <;> rfl
    · rfl
  | slice start stop => simp [pick, List.map_take, List.map_drop]

theorem pick?_map {α β : Type} (f : α → β) (p : Option Position) (xs : List α) :
    pick? p (xs.map f) = (pick? p xs).map f := by
  cases p with
  | none => rfl
  | some p => exact p.pick_map f xs

end Position

open Passage in
theorem Segment.select_map_shift (s : Segment) (k : Nat) (ps : List Passage) :
    s.select (ps.map (shift k)) = (s.select ps).map (shift k) := by
  unfold select
  split
  · rfl
  · rw [sections_map_shift, Position.pick?_map]
  · rw [items_map_shift, List.filter_map, Position.pick?_map]
    simp [Function.comp_def]
  · rw [List.filter_map, Position.pick?_map]
    simp [Function.comp_def]

open Passage in
theorem resolve_map_shift (k : Nat) (ps : List Passage) (ss : List Segment) :
    resolve (ps.map (shift k)) ss = (resolve ps ss).map (shift k) := by
  induction ss generalizing ps with
  | nil => rfl
  | cons s ss ih =>
    have hinner (p : Passage) : (p.shift k).innerList = p.innerList.map (shift k) := by
      cases h : p.inner <;> simp [innerList, h]
    simp only [resolve, s.select_map_shift, ih]
    split
    · simp [List.flatMap_map, List.map_flatMap, hinner, ih]
    · rfl

namespace Passage

open Token

theorem expand_sectionAt (k : Nat) (t : Token) (ts : List Token) :
    expand [sectionAt k t ts] = consecutive k (t :: ts) := by
  simp [expand, sectionAt, consecutive]

@[simp] theorem stop_sectionAt (k : Nat) (t : Token) (ts : List Token) :
    (sectionAt k t ts).stop = k + span (t :: ts) := rfl

end Passage

namespace Token

theorem reads_of_ofText {source : Text} {ts us : List Token} (h : ofText source = ts ++ us) :
    ∃ xs ys, Text.lines source = xs ++ ys ∧ Reads (xs ++ ys) ts ys ∧ blocks ys = us ∧
      Line.joined xs = ts.flatMap raw := by
  obtain ⟨ys, hreads, hys⟩ := reads_of_blocks h
  obtain ⟨xs, hxs, hjoined, -⟩ := hreads.own
  exact ⟨xs, ys, hxs, hxs ▸ hreads, hys, hjoined⟩

theorem ofText_joined {xs : List Line} {ts : List Token} (hx : Line.AreCut xs)
    (h : Reads xs ts []) : ofText (Line.joined xs) = ts := by
  rw [ofText, Text.lines_joined hx]
  exact reads_nil_iff.mp h

theorem parts_of_ofText {source : Text} {us ts ws : List Token}
    (h : ofText source = us ++ (ts ++ ws)) :
    ∃ xs own zs, Text.lines source = xs ++ (own ++ zs) ∧ Line.joined xs = us.flatMap raw ∧
      Line.joined own = ts.flatMap raw ∧ Reads (xs ++ (own ++ zs)) us (own ++ zs) ∧
      Reads (own ++ zs) ts zs ∧ blocks zs = ws := by
  obtain ⟨xs, ys, hlines, hreads, hys, hxs⟩ := reads_of_ofText h
  obtain ⟨zs, hmid, hzs⟩ := reads_of_blocks hys
  obtain ⟨own, rfl, hown, -⟩ := hmid.own
  exact ⟨xs, own, zs, hlines, hxs, hown, hreads, hmid, hzs⟩

/-- Blocks before a heading, or before the end, are the blocks of their own text. -/
theorem ofText_flatMap_raw {source : Text} {us ts ws : List Token}
    (h : ofText source = us ++ (ts ++ ws)) (hws : ∀ w ∈ ws.head?, w.isHeading = true) :
    ofText (ts.flatMap raw) = ts := by
  obtain ⟨xs, own, zs, hlines, -, hown, -, hmid, hzs⟩ := parts_of_ofText h
  have hcut := Text.lines_areCut source
  rw [hlines] at hcut
  rw [← hown]
  exact ofText_joined hcut.right.left (hmid.before_heading (hzs ▸ hws))

theorem ofText_raw {source : Text} {t : Token} (h : t ∈ ofText source) : ofText t.raw = [t] := by
  obtain ⟨us, vs, hsplit⟩ := List.append_of_mem h
  obtain ⟨xs, ys, hlines, -, hys, -⟩ := reads_of_ofText hsplit
  cases ys with
  | nil => simp [blocks_nil] at hys
  | cons l ls =>
    obtain ⟨rfl, -⟩ : first l ls = t ∧ _ := by simpa [blocks_cons] using hys
    have hall := Text.lines_areCut source
    rw [hlines] at hall
    exact ofText_joined (areCut_reach hall.right).1 (reads_first l ls)

end Token

namespace Selection

open Passage

theorem passages_ofText (source : Text) (ss : List Segment) :
    ((ofText source).query ss).passages = resolve (consecutive 0 (Token.ofText source)) ss := by
  simp [query, ofText, index, expand_consecutive]

theorem isSectionOf_of_mem_query {source : Text} {ss : List Segment} (hne : ss ≠ [])
    (hss : ∀ s ∈ ss, s.isScope = true) {p : Passage}
    (hp : p ∈ ((ofText source).query ss).passages) : IsSectionOf 0 (Token.ofText source) p := by
  rw [passages_ofText] at hp
  exact Segment.isSectionOf_of_mem_resolve hne hss (Token.depthsKnown_blocks _) hp

theorem query_singleton {source own : Text} {p : Passage}
    (h : expand [p] = consecutive p.start (Token.ofText own)) (ts : List Segment) :
    ((Selection.mk source [p]).query ts).passages =
      ((ofText own).query ts).passages.map (shift p.start) := by
  rw [passages_ofText, ← resolve_map_shift, map_shift_consecutive, Nat.add_zero, ← h]
  rfl

theorem expand_of_mem_index {source : Text} {p : Passage} (h : p ∈ index source) :
    expand [p] = consecutive p.start (Token.ofText (p.text source)) := by
  have htext := text_of_mem_index h
  obtain ⟨us, t, vs, hts, rfl⟩ := mem_consecutive h
  have hmem : t ∈ Token.ofText source := by simp [hts]
  rw [htext, show (ofToken (0 + Token.span us) t).token.raw = t.raw from rfl, Token.ofText_raw hmem]
  rfl

theorem expand_of_isSectionOf {source : Text} {p : Passage}
    (h : IsSectionOf 0 (Token.ofText source) p) :
    expand [p] = consecutive p.start (Token.ofText (p.text source)) := by
  obtain ⟨us, t, vs, ws, hts, rfl, -, -, hws⟩ := h
  rw [← List.cons_append] at hts
  have htext : (sectionAt (0 + Token.span us) t vs).text source = (t :: vs).flatMap Token.raw :=
    text_eq hts (Nat.zero_add _) (by rw [stop_sectionAt, Nat.zero_add])
  have hheading : ∀ w ∈ ws.head?, w.isHeading = true :=
    fun w hw => Token.isHeading_of_ends (hws w hw)
  rw [htext, Token.ofText_flatMap_raw hts hheading, expand_sectionAt]
  rfl

/-- A section selected by scope segments answers each selector in its document as its text does on
its own; only the offsets differ, by where the section starts. -/
theorem query_section_eq_shift {source : Text} {ss : List Segment}
    (hss : ∀ s ∈ ss, s.isScope = true) {p : Passage} (hp : p ∈ ((ofText source).query ss).passages)
    (ts : List Segment) :
    ((Selection.mk source [p]).query ts).passages =
      ((ofText (p.text source)).query ts).passages.map (Passage.shift p.start) := by
  refine query_singleton ?_ ts
  cases ss with
  | nil =>
    rw [passages_ofText] at hp
    exact expand_of_mem_index hp
  | cons s ss => exact expand_of_isSectionOf (isSectionOf_of_mem_query (by simp) hss hp)

theorem query_section_eq_shift_nested :
    let ss : List Segment := [⟨"section".toList, some (.scope none), none, none⟩]
    let source := "x\n# A\n## B\n# C\n".toList
    ∃ p ∈ ((ofText source).query ss).passages, p.start = 2 ∧
      ((Selection.mk source [p]).query ss).passages =
        ((ofText (p.text source)).query ss).passages.map (Passage.shift p.start) := by
  intro ss source
  have hmem : 2 ∈ ((ofText source).query ss).passages.map Passage.start := by decide +kernel
  obtain ⟨p, hp, hstart⟩ := List.mem_map.mp hmem
  exact ⟨p, hp, hstart, query_section_eq_shift (by decide) hp ss⟩

end Selection

end Excerpt
