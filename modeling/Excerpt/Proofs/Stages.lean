import Excerpt.Proofs.Nesting
import Mathlib.Data.List.Flatten

/-!
Stages of a selector. Among the blocks of a document each stage draws from the blocks, or from the
items of its lists, in their order; a section holds blocks of the document in their order.
-/

namespace Excerpt

theorem mem_of_mem_splitItems {xs : List (Line × Bool)} {r : Line × List Line}
    (h : r ∈ (splitItems xs).2) : (r.1, true) ∈ xs := by
  induction xs with
  | nil => simp [splitItems] at h
  | cons x xs ih =>
    obtain ⟨l, starts⟩ := x
    simp only [splitItems] at h
    split at h
    · rename_i hstarts
      rcases List.mem_cons.mp h with rfl | h
      · simp [hstarts]
      · exact List.mem_cons_of_mem _ (ih h)
    · exact List.mem_cons_of_mem _ (ih h)

namespace Token

theorem exists_suffix_first {ls : List Line} {t : Token} (h : t ∈ blocks ls) :
    ∃ m ms, (m :: ms) <:+ ls ∧ t = first m ms := by
  fun_induction blocks ls with
  | case1 => simp at h
  | case2 l ls o ih =>
    rcases List.mem_cons.mp h with rfl | h
    · exact ⟨l, ls, List.suffix_refl _, rfl⟩
    · obtain ⟨m, ms, hsuffix, rfl⟩ := ih h
      exact ⟨m, ms, hsuffix.trans ((List.drop_suffix _ _).trans (List.suffix_cons _ _)), rfl⟩

theorem raw_ofItem_ne_nil {l : Line} (h : l.IsWhole) (ls : List Line) : (ofItem l ls).raw ≠ [] := by
  simp [ofItem, raw, Line.joined, Line.toText_ne_nil h]

theorem raw_ne_nil_of_mem_items {source : Text} {t u : Token} (ht : t ∈ ofText source)
    (hu : u ∈ t.items) : u.raw ≠ [] := by
  obtain ⟨m, ms, hsuffix, rfl⟩ := exists_suffix_first ht
  have hwhole : ∀ l ∈ m :: ms, l.IsWhole := fun l hl =>
    (Text.lines_areCut source).1 l (hsuffix.subset hl)
  simp only [items, first, ofLines, content] at hu
  cases hr : Opening.read m ms with
  | list marker =>
    simp only [hr, Opening.content, List.mem_cons, List.mem_map] at hu
    rcases hu with rfl | ⟨⟨l, ls⟩, hl, rfl⟩
    · exact raw_ofItem_ne_nil (hwhole m (by simp)) _
    · have hl' := List.mem_of_mem_take (List.of_mem_zip (mem_of_mem_splitItems hl)).1
      exact raw_ofItem_ne_nil (hwhole _ (List.mem_cons_of_mem m hl')) _
  | paragraph =>
    simp only [hr, Opening.content] at hu
    cases h : (Extent.paragraph (ms.take (reach m ms))).2 <;> simp [h] at hu
  | _ => simp [hr, Opening.content] at hu

end Token

namespace Passage

theorem bounds_of_mem_placeItems {start : Nat} {rest : Text} {ts : List Token} {p : Passage}
    (h : p ∈ placeItems start rest ts) : start ≤ p.start ∧ p.stop ≤ start + rest.length := by
  induction ts generalizing start rest with
  | nil => simp [placeItems] at h
  | cons t ts ih =>
    simp only [placeItems] at h
    split at h
    · exact ih h
    · rename_i n hn
      have hfits := (Text.prefix_of_before? hn).2
      rcases List.mem_cons.mp h with rfl | h
      · simp only [ofToken]
        omega
      · have hrest := ih h
        rw [List.length_drop] at hrest
        omega

theorem apart_placeItems (start : Nat) (rest : Text) (ts : List Token) :
    (placeItems start rest ts).Pairwise fun p q => p.stop ≤ q.start := by
  induction ts generalizing start rest with
  | nil => exact List.Pairwise.nil
  | cons t ts ih =>
    simp only [placeItems]
    split
    · exact ih _ _
    · exact List.pairwise_cons.mpr ⟨fun q hq => (bounds_of_mem_placeItems hq).1, ih _ _⟩

theorem token_mem_of_mem_placeItems {start : Nat} {rest : Text} {ts : List Token} {p : Passage}
    (h : p ∈ placeItems start rest ts) : p.token ∈ ts ∧ p.stop = p.start + p.token.raw.length := by
  induction ts generalizing start rest with
  | nil => simp [placeItems] at h
  | cons t ts ih =>
    have hlater {start : Nat} {rest : Text} (h : p ∈ placeItems start rest ts) :
        p.token ∈ t :: ts ∧ p.stop = p.start + p.token.raw.length :=
      (ih h).imp (List.mem_cons_of_mem t) id
    simp only [placeItems] at h
    split at h
    · exact hlater h
    · rcases List.mem_cons.mp h with rfl | h
      · simp [ofToken]
      · exact hlater h

section Index

variable {source : Text}

theorem apart_index : (index source).Pairwise fun p q => p.stop ≤ q.start := apart_consecutive 0 _

theorem apart_items_index : (items (index source)).Pairwise fun p q => p.stop ≤ q.start := by
  refine List.pairwise_flatMap.mpr ⟨fun p _ => apart_placeItems _ _ _, ?_⟩
  refine List.Pairwise.imp_of_mem (fun hp _ hpq r hr u hu => ?_) apart_index
  have hr := (bounds_of_mem_placeItems hr).2
  have hu := (bounds_of_mem_placeItems hu).1
  have hstop := (isPlain_of_mem_index hp).stop_eq
  omega

theorem exists_of_mem_items {ps : List Passage} {p : Passage} (h : p ∈ items ps) :
    ∃ q ∈ ps, p.token ∈ q.token.items ∧ p.stop = p.start + p.token.raw.length := by
  obtain ⟨q, hq, h⟩ := List.mem_flatMap.mp h
  exact ⟨q, hq, token_mem_of_mem_placeItems h⟩

theorem start_lt_stop_of_mem_items {p : Passage} (h : p ∈ items (index source)) :
    p.start < p.stop := by
  obtain ⟨q, hq, hmem, hstop⟩ := exists_of_mem_items h
  have hraw := Token.raw_ne_nil_of_mem_items (token_mem_of_mem_consecutive hq) hmem
  have hpos := List.length_pos_iff.mpr hraw
  omega

theorem items_eq_nil {ps : List Passage} (h : ∀ p ∈ ps, p.token.items = []) : items ps = [] :=
  List.flatMap_eq_nil_iff.mpr fun p hp => by rw [h p hp, placeItems]

theorem items_subset {ps qs : List Passage} (h : qs ⊆ ps) : items qs ⊆ items ps := by
  intro p hp
  obtain ⟨q, hq, hp⟩ := List.mem_flatMap.mp hp
  exact List.mem_flatMap.mpr ⟨q, h hq, hp⟩

/-- Items hold no lists, so a stage of items ends what comes before it. -/
theorem items_of_items {ps qs : List Passage} (hps : ∀ p ∈ ps, p.IsPlain source)
    (h : qs ⊆ items ps) : items qs = [] := by
  refine items_eq_nil fun q hq => ?_
  obtain ⟨p, hp, hmem, -⟩ := exists_of_mem_items (h hq)
  exact Token.items_eq_nil (by simp [(hps p hp).kind_items _ hmem])

end Index

/-- Blocks of a document, or items of its lists, in their order. -/
def Drawn (source : Text) (ps : List Passage) : Prop :=
  ps.Sublist (index source) ∨ ps.Sublist (items (index source))

/-- A section that a heading makes with other blocks behind it, in their order. -/
def IsSectionAmong (source : Text) (p : Passage) : Prop :=
  ∃ h qs, (h :: qs).Sublist (index source) ∧ h.token.isHeading = true ∧ p = h.asSection qs

theorem exists_suffix_of_mem_sections {opens : Token → Bool} {ps : List Passage} {p : Passage}
    (hp : p ∈ sections opens ps) :
    ∃ h qs, (h :: qs) <:+ ps ∧ h.token.isHeading = true ∧ p = h.asSection qs := by
  induction ps with
  | nil => simp [sections] at hp
  | cons q ps ih =>
    have hlater (hp : p ∈ sections opens ps) :
        ∃ h qs, (h :: qs) <:+ q :: ps ∧ h.token.isHeading = true ∧ p = h.asSection qs := by
      obtain ⟨h, qs, hsuffix, hp⟩ := ih hp
      exact ⟨h, qs, hsuffix.trans (List.suffix_cons q ps), hp⟩
    simp only [sections] at hp
    split at hp
    · rename_i hopen
      rcases List.mem_cons.mp hp with rfl | hp
      · exact ⟨q, ps, List.suffix_refl _, (Bool.and_eq_true_iff.mp hopen).1, rfl⟩
      · exact hlater hp
    · exact hlater hp

section Drawn

variable {source : Text} {ps : List Passage}

theorem Drawn.sublist {qs : List Passage} (h : Drawn source ps) (hqs : qs.Sublist ps) :
    Drawn source qs :=
  h.imp hqs.trans hqs.trans

theorem Drawn.isPlain (h : Drawn source ps) : ∀ p ∈ ps, p.IsPlain source := by
  have hplain : ∀ q ∈ index source, q.IsPlain source := fun _ hq => isPlain_of_mem_index hq
  rcases h with h | h
  · exact fun p hp => hplain p (h.subset hp)
  · exact fun p hp => (isPlain_of_mem_items hplain (h.subset hp)).1

theorem Drawn.items (h : Drawn source ps) : Drawn source (items ps) := by
  rcases h with h | h
  · exact Or.inr (h.flatMap _)
  · rw [items_of_items (fun _ hq => isPlain_of_mem_index hq) h.subset]
    exact Or.inr (List.nil_sublist _)

theorem IsSectionAmong.drawn_innerList {p : Passage} (h : IsSectionAmong source p) :
    Drawn source p.innerList := by
  obtain ⟨h, qs, hsub, -, rfl⟩ := h
  exact Or.inl ((List.takeWhile_sublist _).trans ((List.sublist_cons_self h qs).trans hsub))

end Drawn

end Passage

namespace Segment

open Passage

section Drawn

variable {source : Text} {ps : List Passage} (hps : Drawn source ps)
include hps

theorem drawn_select {s : Segment} (hs : s.isScope = false) : Drawn source (s.select ps) := by
  unfold isScope at hs
  unfold select
  split
  · exact hps.sublist (List.nil_sublist ps)
  · rename_i hw
    simp [hw, Word.isScope] at hs
  · exact hps.items.sublist ((Position.pick?_sublist _ _).trans List.filter_sublist)
  · exact hps.sublist ((Position.pick?_sublist _ _).trans List.filter_sublist)

theorem isSectionAmong_of_mem_select {s : Segment} (hs : s.isScope = true) {p : Passage}
    (hp : p ∈ s.select ps) : IsSectionAmong source p := by
  obtain ⟨opens, hp⟩ := mem_sections_of_mem_select hs hp
  obtain ⟨h, qs, hsuffix, hheading, rfl⟩ := exists_suffix_of_mem_sections hp
  rcases hps with hps | hps
  · exact ⟨h, qs, hsuffix.sublist.trans hps, hheading, rfl⟩
  · have hmem := hps.subset (hsuffix.subset List.mem_cons_self)
    have hnot := (isPlain_of_mem_items (fun _ hq => isPlain_of_mem_index hq) hmem).2
    simp [hnot] at hheading

/-- What a selector finds among blocks or items: one of them, or a section of blocks. -/
theorem mem_resolve_of_drawn {ss : List Segment} {p : Passage} (hp : p ∈ resolve ps ss) :
    (p ∈ index source ∨ p ∈ items (index source)) ∨ IsSectionAmong source p := by
  induction ss generalizing ps with
  | nil => exact Or.inl (hps.imp (fun h => h.subset hp) fun h => h.subset hp)
  | cons s ss ih =>
    simp only [resolve] at hp
    split at hp
    · rename_i hscope
      obtain ⟨q, hq, hp⟩ := List.mem_flatMap.mp hp
      have hsection := isSectionAmong_of_mem_select hps (Bool.and_eq_true_iff.mp hscope).1 hq
      exact ih hsection.drawn_innerList hp
    · rename_i hlast
      cases hs : s.isScope with
      | false => exact ih (drawn_select hps hs) hp
      | true =>
        obtain rfl : ss = [] := by simpa [hs] using hlast
        exact Or.inr (isSectionAmong_of_mem_select hps hs hp)

end Drawn

/-- No scope segment stands behind a segment of another kind. -/
def ScopesFirst (ss : List Segment) : Prop :=
  ss.Pairwise fun s t => t.isScope = true → s.isScope = true

instance (ss : List Segment) : Decidable (ScopesFirst ss) :=
  inferInstanceAs (Decidable (ss.Pairwise _))

theorem ScopesFirst.exists_append {ss : List Segment} (h : ScopesFirst ss) :
    ∃ us vs, ss = us ++ vs ∧ (∀ s ∈ us, s.isScope = true) ∧ ∀ s ∈ vs, s.isScope = false := by
  induction ss with
  | nil => exact ⟨[], [], rfl, by simp, by simp⟩
  | cons s ss ih =>
    obtain ⟨hafter, hss⟩ := List.pairwise_cons.mp h
    cases hs : s.isScope with
    | true =>
      obtain ⟨us, vs, rfl, hus, hvs⟩ := ih hss
      exact ⟨s :: us, vs, rfl, by simpa [hs] using hus, hvs⟩
    | false =>
      refine ⟨[], s :: ss, rfl, by simp, ?_⟩
      simpa [hs] using hafter

theorem resolve_singleton (ps : List Passage) (s : Segment) : resolve ps [s] = s.select ps := by
  simp [resolve]

theorem resolve_scope {s : Segment} {ss : List Segment} (hs : s.isScope = true) (hss : ss ≠ [])
    (ps : List Passage) :
    resolve ps (s :: ss) = (s.select ps).flatMap fun p => resolve p.innerList ss := by
  simp [resolve, hs, hss]

theorem resolve_of_not_isScope {s : Segment} (hs : s.isScope = false) (ss : List Segment)
    (ps : List Passage) : resolve ps (s :: ss) = resolve (s.select ps) ss := by
  simp [resolve, hs]

theorem resolve_append_scopes {us vs : List Segment} (hne : us ≠ [])
    (hus : ∀ s ∈ us, s.isScope = true) (hvs : vs ≠ []) (ps : List Passage) :
    resolve ps (us ++ vs) = (resolve ps us).flatMap fun p => resolve p.innerList vs := by
  induction us generalizing ps with
  | nil => exact absurd rfl hne
  | cons u us ih =>
    have hu := hus u (by simp)
    rw [List.cons_append, resolve_scope hu (by simp [hvs])]
    cases us with
    | nil => rw [List.nil_append, resolve_singleton]
    | cons u' us =>
      rw [resolve_scope hu (by simp), List.flatMap_assoc]
      simp only [ih (by simp) fun s hs => hus s (List.mem_cons_of_mem u hs)]

theorem select_subset {s : Segment} (hs : s.isScope = false) :
    (∀ ps, s.select ps ⊆ ps) ∨ ∀ ps, s.select ps ⊆ items ps := by
  unfold isScope at hs
  unfold select
  split
  · exact Or.inl fun ps => List.nil_subset ps
  · rename_i hw
    simp [hw, Word.isScope] at hs
  · exact Or.inr fun ps =>
      ((Position.pick?_sublist _ _).trans List.filter_sublist).subset
  · exact Or.inl fun ps =>
      ((Position.pick?_sublist _ _).trans List.filter_sublist).subset

/-- Segments that are no scopes pass on some of what they get, or items of it; which of the two
depends on the segments alone. -/
theorem resolve_subset (source : Text) {vs : List Segment} (hvs : ∀ s ∈ vs, s.isScope = false) :
    (∀ ps, Drawn source ps → resolve ps vs ⊆ ps) ∨
      ∀ ps, Drawn source ps → resolve ps vs ⊆ items ps := by
  induction vs with
  | nil => exact Or.inl fun ps _ => List.Subset.refl ps
  | cons v vs ih =>
    have hv := hvs v (by simp)
    simp only [resolve_of_not_isScope hv]
    rcases select_subset hv with hselect | hselect <;>
      rcases ih fun s hs => hvs s (List.mem_cons_of_mem v hs) with hrest | hrest
    · exact Or.inl fun ps hps =>
        List.Subset.trans (hrest _ (drawn_select hps hv)) (hselect ps)
    · exact Or.inr fun ps hps =>
        List.Subset.trans (hrest _ (drawn_select hps hv)) (items_subset (hselect ps))
    · exact Or.inr fun ps hps =>
        List.Subset.trans (hrest _ (drawn_select hps hv)) (hselect ps)
    · refine Or.inr fun ps hps => ?_
      have hnil := hrest _ (drawn_select hps hv)
      rw [items_of_items hps.isPlain (hselect ps)] at hnil
      exact List.Subset.trans hnil (List.nil_subset _)

/-- What a selector finds in a document if its scope segments come first: full sections only, or
blocks only, or items only. -/
theorem resolve_of_scopesFirst {ss : List Segment} (hss : ScopesFirst ss) (source : Text) :
    (∀ p ∈ resolve (index source) ss, p.IsFullSection source) ∨
      resolve (index source) ss ⊆ index source ∨
      resolve (index source) ss ⊆ items (index source) := by
  obtain ⟨us, vs, rfl, hus, hvs⟩ := hss.exists_append
  have hindex : Drawn source (index source) := Or.inl (List.Sublist.refl _)
  by_cases hu : us = []
  · subst hu
    exact Or.inr ((resolve_subset source hvs).imp (fun h => h _ hindex) fun h => h _ hindex)
  have hfull : ∀ p ∈ resolve (index source) us, p.IsFullSection source := fun p hp =>
    (isSectionOf_of_mem_resolve hu hus (Token.depthsKnown_blocks _) hp).isFullSection
  by_cases hv : vs = []
  · subst hv
    rw [List.append_nil]
    exact Or.inl hfull
  have hinner {q : Passage} (hq : q ∈ resolve (index source) us) :
      q.innerList.Sublist (index source) := by
    rw [innerList, (hfull q hq).inner_eq]
    exact List.filter_sublist
  rw [resolve_append_scopes hu hus hv]
  refine Or.inr ((resolve_subset source hvs).imp (fun hrest p hp => ?_) fun hrest p hp => ?_)
  · obtain ⟨q, hq, hp⟩ := List.mem_flatMap.mp hp
    exact (hinner hq).subset (hrest _ (Or.inl (hinner hq)) hp)
  · obtain ⟨q, hq, hp⟩ := List.mem_flatMap.mp hp
    exact items_subset (hinner hq).subset (hrest _ (Or.inl (hinner hq)) hp)

end Segment

namespace Selection

open Passage

/-- What a query finds in a document: a block, an item of one, or a section of blocks. -/
theorem among_of_mem_query {source : Text} {ss : List Segment} {p : Passage}
    (hp : p ∈ ((ofText source).query ss).passages) :
    (p ∈ index source ∨ p ∈ items (index source)) ∨ IsSectionAmong source p := by
  rw [passages_ofText] at hp
  exact Segment.mem_resolve_of_drawn (Or.inl (List.Sublist.refl (index source))) hp

end Selection

end Excerpt
