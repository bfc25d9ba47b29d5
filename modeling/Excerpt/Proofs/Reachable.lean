import Excerpt.Proofs.Index
import Excerpt.Proofs.Sections
import Excerpt.Selection.Basic
import Mathlib.Data.List.Infix

/-!
What queries and navigation reach from a document. Each passage stands where its token was read; only
a section can end elsewhere, and it ends before its heading where its last passage does.
-/

namespace Excerpt

theorem Text.prefix_of_before? {part t : Text} {n : Nat} (h : Text.before? part t = some n) :
    part <+: t.drop n ∧ n + part.length ≤ t.length := by
  induction t generalizing n with
  | nil =>
    simp only [before?, List.isEmpty_iff] at h
    split at h
    · rename_i hpart
      obtain rfl : 0 = n := by simpa using h
      simp [hpart]
    · simp at h
  | cons c r ih =>
    simp only [before?] at h
    split at h
    · rename_i hpart
      obtain rfl : 0 = n := by simpa using h
      have hfound := List.isPrefixOf_iff_prefix.mp hpart
      simpa [hfound] using hfound.length_le
    · obtain ⟨m, hm, rfl⟩ := Option.map_eq_some_iff.mp h
      obtain ⟨hfound, hle⟩ := ih hm
      refine ⟨by simpa using hfound, ?_⟩
      rw [List.length_cons]
      omega

namespace Token

theorem kind_ofItem (l : Line) (ls : List Line) : (ofItem l ls).kind = .item := rfl

theorem items_eq_nil {t : Token} (h : t.kind ≠ .list) : t.items = [] := by
  cases t with
  | mk r c => cases c <;> simp_all [kind, content, Content.kind, items]

theorem kind_ne_item {source : Text} {t : Token} (ht : t ∈ ofText source) : t.kind ≠ .item := by
  obtain ⟨l, ls, rfl⟩ := exists_eq_first ht
  simp only [kind, first, ofLines, content]
  cases Opening.read l ls with
  | paragraph =>
    simp only [Opening.content]
    cases (Extent.paragraph (ls.take (reach l ls))).2 <;> simp [Content.kind]
  | _ => simp [Opening.content, Content.kind]

theorem kind_of_mem_items {source : Text} {t : Token} (ht : t ∈ ofText source) :
    ∀ u ∈ t.items, u.kind = .item := by
  obtain ⟨l, ls, rfl⟩ := exists_eq_first ht
  simp only [items, first, ofLines, content]
  cases Opening.read l ls with
  | list m =>
    simp only [Opening.content, List.mem_cons, List.mem_map]
    rintro u (rfl | ⟨r, -, rfl⟩)
    · exact kind_ofItem _ _
    · exact kind_ofItem _ _
  | paragraph =>
    simp only [Opening.content]
    cases (Extent.paragraph (ls.take (reach l ls))).2 <;> simp
  | _ => simp [Opening.content]

end Token

namespace Passage

/-- A passage that is its token, where the token stands in the document. -/
structure IsPlain (source : Text) (p : Passage) : Prop where
  inner_eq : p.inner = none
  stop_eq : p.stop = p.start + p.token.raw.length
  stop_le : p.stop ≤ source.length
  raw_prefix : p.token.raw <+: source.drop p.start
  kind_items : ∀ t ∈ p.token.items, t.kind = .item

@[simp] theorem start_asSection (p : Passage) (qs : List Passage) :
    (p.asSection qs).start = p.start := rfl

@[simp] theorem token_asSection (p : Passage) (qs : List Passage) :
    (p.asSection qs).token = p.token := rfl

/-- A plain passage, or a section that one makes with others. -/
inductive Stands (source : Text) : Passage → Prop where
  | plain {p : Passage} (hp : p.IsPlain source) : Stands source p
  | scope {p : Passage} {qs : List Passage} (hp : p.IsPlain source)
      (hqs : ∀ q ∈ qs, q.IsPlain source) : Stands source (p.asSection qs)

section Plain

variable {source : Text}

theorem isPlain_of_mem_index {p : Passage} (h : p ∈ index source) : p.IsPlain source := by
  obtain ⟨us, t, vs, hts, rfl⟩ := mem_consecutive h
  have hmem : t ∈ Token.ofText source := by simp [hts]
  refine ⟨rfl, rfl, ?_, ?_, Token.kind_of_mem_items hmem⟩
  · have hlength := Token.length_eq_span hts
    simp only [ofToken, Token.span_cons] at hlength ⊢
    omega
  · simp only [ofToken, Nat.zero_add]
    rw [Token.drop_span hts, List.flatMap_cons]
    exact List.prefix_append _ _

theorem isPlain_of_mem_placeItems {start : Nat} {rest : Text} {ts : List Token}
    (hrest : rest <+: source.drop start) (hle : start + rest.length ≤ source.length)
    (hts : ∀ t ∈ ts, t.kind = .item) {p : Passage} (h : p ∈ placeItems start rest ts) :
    p.IsPlain source ∧ p.token ∈ ts := by
  induction ts generalizing start rest with
  | nil => simp [placeItems] at h
  | cons t ts ih =>
    have hts' : ∀ t ∈ ts, t.kind = .item := fun u hu => hts u (List.mem_cons_of_mem t hu)
    simp only [placeItems] at h
    split at h
    · obtain ⟨hp, hmem⟩ := ih hrest hle hts' h
      exact ⟨hp, List.mem_cons_of_mem t hmem⟩
    · rename_i n hn
      obtain ⟨hfound, hfits⟩ := Text.prefix_of_before? hn
      rcases List.mem_cons.mp h with rfl | h
      · have hraw : t.raw <+: source.drop (start + n) := by
          rw [← List.drop_drop]
          exact hfound.trans (hrest.drop n)
        have hitems : t.items = [] := Token.items_eq_nil (by simp [hts t (by simp)])
        refine ⟨⟨rfl, rfl, ?_, hraw, by simp [ofToken, hitems]⟩, by simp [ofToken]⟩
        simp only [ofToken]
        omega
      · have hdrop : rest.drop (n + t.raw.length) <+: source.drop (start + n + t.raw.length) := by
          simpa [Nat.add_assoc] using hrest.drop (n + t.raw.length)
        obtain ⟨hp, hmem⟩ := ih hdrop (by rw [List.length_drop]; omega) hts' h
        exact ⟨hp, List.mem_cons_of_mem t hmem⟩

variable {ps : List Passage} (hps : ∀ p ∈ ps, p.IsPlain source)
include hps

theorem isPlain_of_mem_items {p : Passage} (h : p ∈ items ps) :
    p.IsPlain source ∧ p.token.isHeading = false := by
  obtain ⟨q, hq, h⟩ := List.mem_flatMap.mp h
  have hplain := hps q hq
  have hle := hplain.stop_le
  rw [hplain.stop_eq] at hle
  obtain ⟨hp, hmem⟩ := isPlain_of_mem_placeItems hplain.raw_prefix hle hplain.kind_items h
  exact ⟨hp, by simp [Token.isHeading, hplain.kind_items _ hmem]⟩

theorem stands_of_mem_sections {opens : Token → Bool} {p : Passage} (h : p ∈ sections opens ps) :
    Stands source p := by
  induction ps with
  | nil => simp [sections] at h
  | cons q ps ih =>
    have hlater (h : p ∈ sections opens ps) : Stands source p :=
      ih (fun r hr => hps r (List.mem_cons_of_mem q hr)) h
    simp only [sections] at h
    split at h
    · rcases List.mem_cons.mp h with rfl | h
      · exact .scope (hps q (by simp)) fun r hr => hps r (List.mem_cons_of_mem q hr)
      · exact hlater h
    · exact hlater h

omit hps

theorem isPlain_of_mem_expand (hps : ∀ p ∈ ps, Stands source p) {q : Passage}
    (h : q ∈ expand ps) : q.IsPlain source := by
  obtain ⟨p, hp, h⟩ := List.mem_flatMap.mp h
  cases hps p hp with
  | plain hplain =>
    rw [hplain.inner_eq, List.mem_singleton] at h
    exact h ▸ hplain
  | @scope p qs hplain hqs =>
    rcases List.mem_cons.mp h with rfl | h
    · exact ⟨rfl, rfl, by simpa [ofToken, hplain.stop_eq] using hplain.stop_le,
        hplain.raw_prefix, hplain.kind_items⟩
    · exact hqs q ((List.takeWhile_prefix _).subset h)

theorem isPlain_of_mem_innerList {p q : Passage} (hp : Stands source p) (h : q ∈ p.innerList) :
    q.IsPlain source := by
  cases hp with
  | plain hplain => simp [innerList, hplain.inner_eq] at h
  | scope _ hqs => exact hqs q ((List.takeWhile_prefix _).subset h)

end Plain

namespace Stands

variable {source : Text} {p : Passage} (hp : Stands source p)
include hp

theorem start_add_le : p.start + p.token.raw.length ≤ source.length := by
  cases hp with
  | plain hp => exact hp.stop_eq ▸ hp.stop_le
  | scope hp _ => simpa [hp.stop_eq] using hp.stop_le

theorem take_drop : (source.drop p.start).take p.token.raw.length = p.token.raw := by
  cases hp with
  | plain hp => exact (List.prefix_iff_eq_take.mp hp.raw_prefix).symm
  | scope hp _ => exact (List.prefix_iff_eq_take.mp hp.raw_prefix).symm

theorem stop_eq (h : p.inner = none) : p.stop = p.start + p.token.raw.length := by
  cases hp with
  | plain hp => exact hp.stop_eq
  | scope => simp [asSection] at h

theorem stop_le : p.stop ≤ source.length := by
  cases hp with
  | plain hp => exact hp.stop_le
  | @scope p qs hp hqs =>
    simp only [asSection]
    cases hlast : (p.body qs).getLast? with
    | none => simpa using hp.stop_le
    | some q =>
      have hq := (List.takeWhile_prefix _).subset (List.mem_of_getLast? hlast)
      simpa using (hqs q hq).stop_le

theorem start_le_stop_iff :
    p.start ≤ p.stop ↔ ∀ q ∈ p.innerList.getLast?, p.start ≤ q.stop := by
  cases hp with
  | plain hp => simp [innerList, hp.inner_eq, hp.stop_eq]
  | @scope p qs hp _ =>
    simp only [asSection, innerList, Option.getD_some]
    cases (p.body qs).getLast? with
    | none => simp [hp.stop_eq]
    | some q => simp

end Stands

/-- Passages in the order in which the document has them. -/
def InOrder (ps : List Passage) : Prop := ps.Pairwise fun p q => p.start ≤ q.start

instance (ps : List Passage) : Decidable (InOrder ps) :=
  inferInstanceAs (Decidable (ps.Pairwise fun p q => p.start ≤ q.start))

theorem inOrder_consecutive (k : Nat) (ts : List Token) : InOrder (consecutive k ts) := by
  induction ts generalizing k with
  | nil => exact List.Pairwise.nil
  | cons t ts ih =>
    refine List.pairwise_cons.mpr ⟨fun q hq => ?_, ih _⟩
    exact Nat.le_trans (Nat.le_add_right _ _) (bounds_of_mem_consecutive hq).1

theorem sections_eq_nil {opens : Token → Bool} {ps : List Passage}
    (h : ∀ p ∈ ps, p.token.isHeading = false) : sections opens ps = [] := by
  induction ps with
  | nil => rfl
  | cons p ps ih =>
    simpa [sections, h p (by simp)] using ih fun q hq => h q (List.mem_cons_of_mem p hq)

theorem start_le_stop_of_mem_sections {source : Text} {opens : Token → Bool} {ps : List Passage}
    (hps : ∀ p ∈ ps, p.IsPlain source) (horder : InOrder ps) {p : Passage}
    (h : p ∈ sections opens ps) : p.start ≤ p.stop ∧ InOrder p.innerList := by
  induction ps with
  | nil => simp [sections] at h
  | cons q ps ih =>
    have hps' : ∀ r ∈ ps, r.IsPlain source := fun r hr => hps r (List.mem_cons_of_mem q hr)
    have hafter := List.pairwise_cons.mp horder
    simp only [sections] at h
    split at h
    · rcases List.mem_cons.mp h with rfl | h
      · refine ⟨(Stands.scope (hps q (by simp)) hps').start_le_stop_iff.mpr ?_,
          hafter.2.sublist (List.takeWhile_sublist _)⟩
        intro r hr
        have hmem : r ∈ ps := (List.takeWhile_prefix _).subset (List.mem_of_getLast? hr)
        have hstart : q.start ≤ r.start := hafter.1 r hmem
        have hstop := (hps' r hmem).stop_eq
        simp only [start_asSection]
        omega
      · exact ih hps' hafter.2 h
    · exact ih hps' hafter.2 h

end Passage

namespace Segment

open Passage

variable {source : Text} {ps : List Passage} (hps : ∀ p ∈ ps, p.IsPlain source)
include hps

theorem isPlain_of_mem_select {s : Segment} (hs : s.isScope = false) {p : Passage}
    (h : p ∈ s.select ps) : p.IsPlain source := by
  unfold isScope at hs
  unfold select at h
  split at h
  · simp at h
  · rename_i hw
    simp [hw, Word.isScope] at hs
  · have h := (Position.pick?_sublist _ _).subset h
    exact (isPlain_of_mem_items hps (List.mem_filter.mp h).1).1
  · have h := (Position.pick?_sublist _ _).subset h
    exact hps p (List.mem_filter.mp h).1

theorem stands_of_mem_select {s : Segment} {p : Passage} (h : p ∈ s.select ps) :
    Stands source p := by
  cases hs : s.isScope with
  | true =>
    obtain ⟨opens, h⟩ := mem_sections_of_mem_select hs h
    exact stands_of_mem_sections hps h
  | false => exact .plain (isPlain_of_mem_select hps hs h)

omit hps

theorem stands_of_mem_resolve {ss : List Segment} (hps : ∀ p ∈ ps, p.IsPlain source) {p : Passage}
    (h : p ∈ resolve ps ss) : Stands source p := by
  induction ss generalizing ps with
  | nil => exact .plain (hps p h)
  | cons s ss ih =>
    simp only [resolve] at h
    split at h
    · obtain ⟨q, hq, h⟩ := List.mem_flatMap.mp h
      have hstands := stands_of_mem_select hps hq
      exact ih (fun r hr => isPlain_of_mem_innerList hstands hr) h
    · rename_i hlast
      cases hs : s.isScope with
      | false => exact ih (fun q hq => isPlain_of_mem_select hps hs hq) h
      | true =>
        obtain rfl : ss = [] := by simpa [hs] using hlast
        exact stands_of_mem_select hps h

/-- Passages whose sections, if they have any, are in order. -/
def Orderly (ps : List Passage) : Prop := InOrder ps ∨ ∀ p ∈ ps, p.token.isHeading = false

theorem orderly_select {s : Segment} (hs : s.isScope = false)
    (hps : ∀ p ∈ ps, p.IsPlain source) (horder : Orderly ps) : Orderly (s.select ps) := by
  unfold isScope at hs
  unfold select
  split
  · exact Or.inr (by simp)
  · rename_i hw
    simp [hw, Word.isScope] at hs
  · refine Or.inr fun p hp => ?_
    have hp := (Position.pick?_sublist _ _).subset hp
    exact (isPlain_of_mem_items hps (List.mem_filter.mp hp).1).2
  · rename_i w _ _ _
    have hsublist : (Position.pick? s.position (ps.filter fun p => s.opens w p.token)).Sublist ps :=
      (Position.pick?_sublist _ _).trans List.filter_sublist
    rcases horder with horder | hnone
    · exact Or.inl (horder.sublist hsublist)
    · exact Or.inr fun p hp => hnone p (hsublist.subset hp)

theorem start_le_stop_of_mem_select {s : Segment} (hs : s.isScope = true)
    (hps : ∀ p ∈ ps, p.IsPlain source) (horder : Orderly ps) {p : Passage} (h : p ∈ s.select ps) :
    p.start ≤ p.stop ∧ InOrder p.innerList := by
  obtain ⟨opens, h⟩ := mem_sections_of_mem_select hs h
  rcases horder with horder | hnone
  · exact start_le_stop_of_mem_sections hps horder h
  · simp [sections_eq_nil hnone] at h

theorem start_le_stop_of_mem_resolve {ss : List Segment} (hps : ∀ p ∈ ps, p.IsPlain source)
    (horder : Orderly ps) {p : Passage} (h : p ∈ resolve ps ss) : p.start ≤ p.stop := by
  induction ss generalizing ps with
  | nil => exact (hps p h).stop_eq ▸ Nat.le_add_right _ _
  | cons s ss ih =>
    simp only [resolve] at h
    split at h
    · rename_i hscope
      obtain ⟨q, hq, h⟩ := List.mem_flatMap.mp h
      have hinner := start_le_stop_of_mem_select (Bool.and_eq_true_iff.mp hscope).1 hps horder hq
      have hstands := stands_of_mem_select hps hq
      exact ih (fun r hr => isPlain_of_mem_innerList hstands hr) (Or.inl hinner.2) h
    · rename_i hlast
      cases hs : s.isScope with
      | false =>
        exact ih (fun q hq => isPlain_of_mem_select hps hs hq) (orderly_select hs hps horder) h
      | true =>
        obtain rfl : ss = [] := by simpa [hs] using hlast
        exact (start_le_stop_of_mem_select hs hps horder h).1

end Segment

namespace Selection

open Passage

/-- A selection that a query or navigation makes of another. -/
inductive Step (s : Selection) : Selection → Prop where
  | query (ss : List Segment) : Step s (s.query ss)
  | first : Step s s.first
  | last : Step s s.last
  | before : Step s s.before
  | after : Step s s.after
  | each {t : Selection} (ht : t ∈ s.each) : Step s t

/-- The selections that steps reach from a document. -/
inductive Reachable (source : Text) : Selection → Prop where
  | start : Reachable source (ofText source)
  | step {s t : Selection} (hs : Reachable source s) (ht : Step s t) : Reachable source t

structure Places (source : Text) (s : Selection) : Prop where
  source_eq : s.source = source
  stands : ∀ p ∈ s.passages, Stands source p

theorem Places.step {source : Text} {s t : Selection} (hs : Places source s) (ht : Step s t) :
    Places source t := by
  obtain ⟨hsource, hstands⟩ := hs
  have hindex {p : Passage} (h : p ∈ index s.source) : Stands source p :=
    .plain (isPlain_of_mem_index (hsource ▸ h))
  cases ht with
  | query ss =>
    exact ⟨hsource, fun p hp =>
      Segment.stands_of_mem_resolve (fun q hq => isPlain_of_mem_expand hstands hq) hp⟩
  | first => exact ⟨hsource, fun p hp => hstands p (List.mem_of_mem_take hp)⟩
  | last =>
    refine ⟨hsource, fun p hp => hstands p ?_⟩
    exact List.mem_of_getLast? (by simpa [last] using hp)
  | before =>
    refine ⟨hsource, fun p hp => ?_⟩
    simp only [before] at hp
    split at hp
    · simp at hp
    · exact hindex (List.mem_filter.mp hp).1
  | after =>
    refine ⟨hsource, fun p hp => ?_⟩
    simp only [after] at hp
    split at hp
    · simp at hp
    · exact hindex (List.mem_filter.mp hp).1
  | each ht =>
    obtain ⟨p, hp, rfl⟩ := List.mem_map.mp ht
    exact ⟨hsource, fun q hq => hstands q (by rwa [List.mem_singleton.mp hq])⟩

theorem Reachable.places {source : Text} {s : Selection} (h : Reachable source s) :
    Places source s := by
  induction h with
  | start => exact ⟨rfl, fun p hp => .plain (isPlain_of_mem_index hp)⟩
  | step _ ht ih => exact ih.step ht

theorem inOrder_ofText (source : Text) : InOrder (expand (ofText source).passages) := by
  simp only [ofText, index, expand_consecutive]
  exact inOrder_consecutive 0 _

/-- Whatever the first query of a document finds does not end before it starts. -/
theorem start_le_stop_of_mem_query {source : Text} {ss : List Segment} {p : Passage}
    (hp : p ∈ ((ofText source).query ss).passages) : p.start ≤ p.stop := by
  have hplain : ∀ q ∈ expand (ofText source).passages, q.IsPlain source :=
    fun q hq => isPlain_of_mem_expand Reachable.start.places.stands hq
  exact Segment.start_le_stop_of_mem_resolve hplain (Or.inl (inOrder_ofText source)) hp

/-- Each passage that is reached lies in the document, and its token is the text where it starts.
It ends where its token does, or, for a section, where the last passage in it does; so it ends
behind its start if and only if that passage does. Queries of passages in order find only such. -/
theorem bounds_of_reachable {source : Text} {s : Selection} (h : Reachable source s) :
    (∀ p ∈ s.passages,
      p.start + p.token.raw.length ≤ source.length ∧ p.stop ≤ source.length ∧
      (source.drop p.start).take p.token.raw.length = p.token.raw ∧
      (p.inner = none → p.stop = p.start + p.token.raw.length) ∧
      (p.start ≤ p.stop ↔ ∀ q ∈ p.innerList.getLast?, p.start ≤ q.stop)) ∧
    (InOrder (expand s.passages) → ∀ ss, ∀ p ∈ (s.query ss).passages, p.start ≤ p.stop) := by
  have hstands := h.places.stands
  refine ⟨fun p hp => ?_, fun horder ss p hp => ?_⟩
  · have hp := hstands p hp
    exact ⟨hp.start_add_le, hp.stop_le, hp.take_drop, hp.stop_eq, hp.start_le_stop_iff⟩
  · exact Segment.start_le_stop_of_mem_resolve (fun q hq => isPlain_of_mem_expand hstands hq)
      (Or.inl horder) hp

theorem bounds_of_reachable_first :
    let scope : Segment := ⟨"section".toList, some (.scope none), none, none⟩
    let source := "# A\n## B\n### C\n## D\n## E\n".toList
    let s := ((ofText source).query [scope, { scope with position := some (.index (-1)) }]).first
    s.passages.map Passage.start = [20] ∧ InOrder (expand s.passages) ∧
      (∀ p ∈ s.passages, p.start ≤ p.stop ↔ ∀ q ∈ p.innerList.getLast?, p.start ≤ q.stop) ∧
      ∀ ss, ∀ p ∈ (s.query ss).passages, p.start ≤ p.stop := by
  intro scope source s
  have hstart : s.passages.map Passage.start = [20] := by decide +kernel
  have horder : InOrder (expand s.passages) := by decide +kernel
  have hreach : Reachable source s := (Reachable.start.step (.query _)).step .first
  have hbounds := bounds_of_reachable hreach
  exact ⟨hstart, horder, fun p hp => (hbounds.1 p hp).2.2.2.2, hbounds.2 horder⟩

/-- Sections that are not in order make a section that ends before it starts: among the last
sections of all sections, the last heading goes on with a block that stands before it. -/
theorem exists_stop_lt_start :
    let scope : Segment := ⟨"section".toList, some (.scope none), none, none⟩
    let source := "# A\n## B\n### C\n## D\n## E\n".toList
    let s := ((ofText source).query
      [scope, { scope with position := some (.index (-1)) }]).query [scope]
    Reachable source s ∧ ∃ p ∈ s.passages, p.start = 20 ∧ p.stop = 15 := by
  intro scope source s
  have hreach : Reachable source s := (Reachable.start.step (.query _)).step (.query _)
  have hmem : (20, 15) ∈ s.passages.map fun p => (p.start, p.stop) := by decide +kernel
  obtain ⟨p, hp, he⟩ := List.mem_map.mp hmem
  obtain ⟨hstart, hstop⟩ := Prod.mk.inj he
  exact ⟨hreach, p, hp, hstart, hstop⟩

end Selection

end Excerpt
