import Excerpt.Proofs.Shift
import Excerpt.Proofs.Stages

/-!
Scopes taken apart. A scope segment confines what comes behind it to each section, which is what the
sections give when each is queried on its own, unless the next segment asks for headings.
-/

namespace Excerpt

namespace Passage

theorem items_cons_heading {p : Passage} (hp : p.token.isHeading = true) (ps : List Passage) :
    items (p :: ps) = items ps := by
  have hkind : p.token.kind = .heading := by simpa [Token.isHeading] using hp
  rw [items, List.flatMap_cons, Token.items_eq_nil (by simp [hkind]), placeItems, List.nil_append,
    items]

theorem inner_of_mem_sections {opens : Token → Bool} {ps : List Passage} {p : Passage}
    (hp : p ∈ sections opens ps) : p.token.isHeading = true ∧ p.inner = some p.innerList := by
  obtain ⟨q, qs, -, hq, rfl⟩ := exists_suffix_of_mem_sections hp
  exact ⟨hq, rfl⟩

theorem expand_singleton {p : Passage} (hp : p.inner = some p.innerList) :
    expand [p] = ofToken p.start p.token :: p.innerList := by
  simp [expand, hp]

end Passage

namespace Segment

open Passage

section Headless

variable {r : Segment} (hr : ∀ w ∈ r.word, w.kind ≠ .heading)
include hr

theorem isScope_of_kind_ne : r.isScope = false := by
  cases hw : r.word with
  | none => simp [isScope, hw]
  | some w =>
    have hkind := hr w hw
    cases w with
    | scope d => exact absurd rfl hkind
    | _ => simp [isScope, hw, Word.isScope]

theorem select_cons_heading {p : Passage} (hp : p.token.isHeading = true) (ps : List Passage) :
    r.select (p :: ps) = r.select ps := by
  have hkind : p.token.kind = .heading := by simpa [Token.isHeading] using hp
  unfold select
  split
  · rfl
  · rename_i d hw
    exact absurd rfl (hr _ hw)
  · rw [items_cons_heading hp]
  · rename_i w _ _ hw
    have hopens : r.opens w p.token = false := by
      simp [opens, Word.fits, hkind, (hr w hw).symm]
    rw [List.filter_cons_of_neg (by simp [hopens])]

theorem resolve_cons_heading {p : Passage} (hp : p.token.isHeading = true) (ps : List Passage)
    (rs : List Segment) : resolve (p :: ps) (r :: rs) = resolve ps (r :: rs) := by
  have hscope := isScope_of_kind_ne hr
  rw [resolve_of_not_isScope hscope, resolve_of_not_isScope hscope, select_cons_heading hr hp]

end Headless

end Segment

namespace Selection

open Passage Segment

theorem query_singleton_of_mem_select {source : Text} {s r : Segment} (hs : s.isScope = true)
    (hr : ∀ w ∈ r.word, w.kind ≠ .heading) (rs : List Segment) {ps : List Passage} {p : Passage}
    (hp : p ∈ s.select ps) :
    ((Selection.mk source [p]).query (r :: rs)).passages = resolve p.innerList (r :: rs) := by
  obtain ⟨opens, hp⟩ := mem_sections_of_mem_select hs hp
  obtain ⟨hheading, hinner⟩ := inner_of_mem_sections hp
  have hfirst : (ofToken p.start p.token).token.isHeading = true := hheading
  change resolve (expand [p]) (r :: rs) = _
  rw [expand_singleton hinner, resolve_cons_heading hr hfirst]

theorem query_cons_eq_flatMap_each (x : Selection) {s r : Segment} (hs : s.isScope = true)
    (hr : ∀ w ∈ r.word, w.kind ≠ .heading) (rs : List Segment) :
    (x.query (s :: r :: rs)).passages =
      (x.query [s]).each.flatMap fun part => (part.query (r :: rs)).passages := by
  have hparts : (x.query [s]).each =
      (s.select (expand x.passages)).map fun p => ⟨x.source, [p]⟩ := by
    simp [query, each, resolve_singleton]
  have hsections : (x.query (s :: r :: rs)).passages =
      (s.select (expand x.passages)).flatMap fun p => resolve p.innerList (r :: rs) :=
    resolve_scope hs (by simp) _
  rw [hparts, hsections, List.flatMap_map]
  exact List.flatMap_congr fun p hp => (query_singleton_of_mem_select hs hr rs hp).symm

/-- A chain that starts with a scope segment finds in a document what the rest of it finds in the
sections taken one by one, if the second segment is no scope and asks for no headings. -/
theorem resolve_index_eq_flatMap_each (source : Text) {s r : Segment} (hs : s.isScope = true)
    (hr : ∀ w ∈ r.word, w.kind ≠ .heading) (rs : List Segment) :
    resolve (index source) (s :: r :: rs) =
      ((ofText source).query [s]).each.flatMap fun part => (part.query (r :: rs)).passages := by
  rw [← query_cons_eq_flatMap_each (ofText source) hs hr rs, passages_ofText, index]

theorem resolve_index_eq_flatMap_each_nested :
    let s : Segment := ⟨"section".toList, some (.scope none), none, none⟩
    let r : Segment := ⟨"item".toList, some .item, none, some (.index 0)⟩
    let source := "# A\n- a\n- b\n## B\n- c\n".toList
    s.isScope = true ∧ (∀ w ∈ r.word, w.kind ≠ .heading) ∧
      (resolve (index source) [s, r]).map Passage.start = [4, 17] ∧
      resolve (index source) [s, r] =
        ((ofText source).query [s]).each.flatMap fun part => (part.query [r]).passages := by
  intro s r source
  have hr : ∀ w ∈ r.word, w.kind ≠ .heading := by
    rintro w ⟨⟩
    decide
  exact ⟨rfl, hr, by decide +kernel, resolve_index_eq_flatMap_each source rfl hr []⟩

end Selection

end Excerpt
