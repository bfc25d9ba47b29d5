import Excerpt.Proofs.Edit
import Excerpt.Proofs.Tiling

/-!
What stands before and behind what a query finds. A block and a section begin and end where blocks of
the document meet; an item lies in one block, its list.
-/

namespace Excerpt

namespace Passage

open Token

/-- A passage over some of the blocks of a document, from where one starts to where one ends. -/
def CoversBlocks (source : Text) (p : Passage) : Prop :=
  ∃ us ts ws, Token.ofText source = us ++ (ts ++ ws) ∧ p.start = span us ∧
    p.stop = span us + span ts

section Covers

variable {source : Text} {p q r : Passage}

theorem coversBlocks_of_mem_index (h : p ∈ index source) : CoversBlocks source p := by
  obtain ⟨us, t, vs, hts, rfl⟩ := mem_consecutive h
  exact ⟨us, [t], vs, hts, by simp [ofToken], by simp [ofToken]⟩

theorem IsSectionAmong.coversBlocks (h : IsSectionAmong source p) : CoversBlocks source p := by
  obtain ⟨us, vs, ws, hts, hstart, hstop, -, -⟩ := h.exists_split
  exact ⟨us, p.token :: vs, ws, hts, hstart, hstop⟩

/-- A block of the document stands before or behind what lies in another block as it stands before or
behind that block. -/
theorem sides_of_le (hq : q ∈ index source) (hle : p.toSpan ≤ q.toSpan) (hp : p.start < p.stop)
    (hr : r ∈ index source) :
    (r.stop ≤ p.start ↔ r.stop ≤ q.start) ∧ (p.stop ≤ r.start ↔ q.stop ≤ r.start) := by
  have hr' := start_lt_stop_of_mem_index hr
  simp only [Span.le_def, toSpan] at hle
  rcases eq_or_apart apart_index hr hq with rfl | hapart
  · omega
  · simp only [Span.Apart, toSpan] at hapart
    omega

theorem toSpan_le_of_mem_placeItems (hq : q ∈ index source)
    (hp : p ∈ placeItems q.start q.token.raw q.token.items) :
    p.toSpan ≤ q.toSpan ∧ p.start < p.stop := by
  have hbounds := bounds_of_mem_placeItems hp
  rw [← (isPlain_of_mem_index hq).stop_eq] at hbounds
  exact ⟨hbounds, start_lt_stop_of_mem_items (List.mem_flatMap.mpr ⟨q, hq, hp⟩)⟩

theorem exists_list_of_mem_items (h : p ∈ items (index source)) :
    ∃ q ∈ index source, q.token.kind = .list ∧ p.token ∈ q.token.items ∧ p.toSpan ≤ q.toSpan ∧
      ∀ r ∈ index source, p.toSpan ≤ r.toSpan → r = q := by
  obtain ⟨q, hq, hp⟩ := List.mem_flatMap.mp h
  obtain ⟨hle, hlt⟩ := toSpan_le_of_mem_placeItems hq hp
  have hmem := (token_mem_of_mem_placeItems hp).1
  refine ⟨q, hq, ?_, hmem, hle, fun r hr hr' => ?_⟩
  · by_contra hkind
    simp [Token.items_eq_nil hkind] at hmem
  · rcases eq_or_apart apart_index hr hq with he | hapart
    · exact he
    · simp only [Span.le_def, Span.Apart, toSpan] at hle hr' hapart
      omega

end Covers

end Passage

namespace Selection

open Passage Token

section Sides

variable {source : Text} {p q : Passage}

theorem text_filter_index (f : Passage → Bool) :
    (Selection.mk source ((index source).filter f)).text =
      (((index source).filter f).map Passage.token).flatMap raw := by
  rw [text, List.flatMap_map]
  exact List.flatMap_congr fun q hq => text_of_mem_index (List.mem_filter.mp hq).1

theorem text_beside (h : CoversBlocks source p) :
    (Selection.mk source [p]).before.text = source.take p.start ∧
    (Selection.mk source [p]).after.text = source.drop p.stop := by
  obtain ⟨us, ts, ws, hts, hstart, hstop⟩ := h
  have hts' : Token.ofText source = (us ++ ts) ++ ws := by rw [hts, List.append_assoc]
  rw [← span_append] at hstop
  constructor
  · rw [hstart, take_span hts, ← filter_stop_le_span hts, ← hstart]
    exact text_filter_index _
  · rw [hstop, drop_span hts', ← filter_span_le_start hts', ← hstop]
    exact text_filter_index _

theorem beside_eq_of_le (hq : q ∈ index source) (hle : p.toSpan ≤ q.toSpan)
    (hp : p.start < p.stop) :
    (Selection.mk source [p]).before = (Selection.mk source [q]).before ∧
    (Selection.mk source [p]).after = (Selection.mk source [q]).after := by
  constructor
  · refine congrArg (Selection.mk source) (List.filter_congr fun r hr => ?_)
    rw [decide_eq_decide]
    exact (sides_of_le hq hle hp hr).1
  · refine congrArg (Selection.mk source) (List.filter_congr fun r hr => ?_)
    rw [decide_eq_decide]
    exact (sides_of_le hq hle hp hr).2

theorem text_around_of_coversBlocks (h : CoversBlocks source p) :
    (Selection.mk source [p]).before.text ++ (Selection.mk source [p]).text ++
      (Selection.mk source [p]).after.text = source := by
  obtain ⟨hbefore, hafter⟩ := text_beside h
  obtain ⟨us, ts, ws, hts, hstart, hstop⟩ := h
  have hle : p.start ≤ p.stop := hstart ▸ hstop ▸ Nat.le_add_right _ _
  have htext : (Selection.mk source [p]).text = (source.take p.stop).drop p.start := by
    simp [text, Passage.text]
  calc (Selection.mk source [p]).before.text ++ (Selection.mk source [p]).text ++
        (Selection.mk source [p]).after.text
      = (source.take p.stop).take p.start ++ (source.take p.stop).drop p.start ++
        source.drop p.stop := by rw [hbefore, htext, hafter, List.take_take, Nat.min_eq_left hle]
    _ = source := by rw [List.take_append_drop, List.take_append_drop]

theorem coversBlocks_or_mem_items {ss : List Segment}
    (hp : p ∈ ((ofText source).query ss).passages) :
    CoversBlocks source p ∧ p.token.kind ≠ .item ∨ p ∈ items (index source) := by
  rcases among_of_mem_query hp with (hindex | hitem) | hsection
  · exact Or.inl ⟨coversBlocks_of_mem_index hindex,
      kind_ne_item (token_mem_of_mem_consecutive hindex)⟩
  · exact Or.inr hitem
  · exact Or.inl ⟨hsection.coversBlocks, kind_ne_item hsection.token_mem⟩

end Sides

/-- What stands before a part of a query, the part and what stands behind it make up the document,
unless the part is an item. An item lies in one block, its list, and before and behind it stands what
stands before and behind the list. -/
theorem text_around_of_mem_each {source : Text} {ss : List Segment} {part : Selection}
    (hpart : part ∈ ((ofText source).query ss).each) :
    ∃ p, part.passages = [p] ∧
      (p.token.kind ≠ .item → part.before.text ++ part.text ++ part.after.text = source) ∧
      (p.token.kind = .item → ∃ q ∈ index source, q.token.kind = .list ∧
        p.token ∈ q.token.items ∧ p.toSpan ≤ q.toSpan ∧
        (∀ r ∈ index source, p.toSpan ≤ r.toSpan → r = q) ∧
        part.before.text = source.take q.start ∧ part.after.text = source.drop q.stop) := by
  obtain ⟨p, hp, rfl⟩ := List.mem_map.mp hpart
  refine ⟨p, rfl, ?_⟩
  rcases coversBlocks_or_mem_items hp with ⟨hblocks, hkind⟩ | hitem
  · exact ⟨fun _ => text_around_of_coversBlocks hblocks, fun h => absurd h hkind⟩
  · obtain ⟨q, hq, hkind, hmem, hle, hunique⟩ := exists_list_of_mem_items hitem
    have hitems := kind_of_mem_items (token_mem_of_mem_consecutive hq) _ hmem
    refine ⟨fun h => absurd hitems h, fun _ => ⟨q, hq, hkind, hmem, hle, hunique, ?_⟩⟩
    obtain ⟨hbefore, hafter⟩ := beside_eq_of_le hq hle (start_lt_stop_of_mem_items hitem)
    have htext := text_beside (coversBlocks_of_mem_index hq)
    exact ⟨(congrArg Selection.text hbefore).trans htext.1,
      (congrArg Selection.text hafter).trans htext.2⟩

theorem text_around_of_mem_each_nested :
    let scope : Segment := ⟨"section".toList, some (.scope none), none, none⟩
    let item : Segment := ⟨"item".toList, some .item, none, none⟩
    let source := "# A\n- a\n- b\n## B\n".toList
    (∃ part ∈ ((ofText source).query [scope, scope]).each, part.text = "## B\n".toList ∧
      part.before.text ++ part.text ++ part.after.text = source) ∧
    ∃ part ∈ ((ofText source).query [scope, item]).each, part.text = "- b\n".toList ∧
      ∃ q ∈ index source, q.token.kind = .list ∧
        part.before.text = source.take q.start ∧ part.after.text = source.drop q.stop := by
  intro scope item source
  have hsections : ("## B\n".toList, [Kind.heading]) ∈ ((ofText source).query [scope, scope]).each.map
      fun part => (part.text, part.passages.map fun p => p.token.kind) := by decide +kernel
  have hitems : ("- b\n".toList, [Kind.item]) ∈ ((ofText source).query [scope, item]).each.map
      fun part => (part.text, part.passages.map fun p => p.token.kind) := by decide +kernel
  constructor
  · obtain ⟨part, hpart, he⟩ := List.mem_map.mp hsections
    obtain ⟨htext, hkind⟩ := Prod.mk.inj he
    obtain ⟨p, hp, hblock, -⟩ := text_around_of_mem_each hpart
    rw [hp] at hkind
    have hkind : p.token.kind = .heading := by simpa using hkind
    exact ⟨part, hpart, htext, hblock (by simp [hkind])⟩
  · obtain ⟨part, hpart, he⟩ := List.mem_map.mp hitems
    obtain ⟨htext, hkind⟩ := Prod.mk.inj he
    obtain ⟨p, hp, -, hitem⟩ := text_around_of_mem_each hpart
    rw [hp] at hkind
    obtain ⟨q, hq, hlist, -, -, -, hbeside⟩ := hitem (by simpa using hkind)
    exact ⟨part, hpart, htext, q, hq, hlist, hbeside⟩

end Selection

end Excerpt
