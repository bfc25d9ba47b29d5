import Excerpt.Proofs.Stages

/-!
Gaps in sections. What a section holds follows its heading in the order of the document; it leaves no
gap if and only if it is all of the blocks between the heading and the end of the section.
-/

namespace Excerpt

namespace Token

theorem span_le_of_sublist {us ts : List Token} (h : us.Sublist ts) : span us ≤ span ts :=
  (h.flatMap raw).length_le

theorem eq_of_span_eq {us ts : List Token} (hts : ∀ t ∈ ts, t.raw ≠ []) (h : us.Sublist ts)
    (hspan : span us = span ts) : us = ts := by
  induction h with
  | slnil => rfl
  | @cons us ts t h ih =>
    have hpos : 0 < t.raw.length := List.length_pos_iff.mpr (hts t (by simp))
    have hle := span_le_of_sublist h
    rw [span_cons] at hspan
    omega
  | @cons_cons us ts t h ih =>
    simp only [span_cons, Nat.add_left_cancel_iff] at hspan
    rw [ih (fun u hu => hts u (List.mem_cons_of_mem t hu)) hspan]

end Token

namespace Passage

open Token

/-- Passages that follow one another without a gap, from one offset to another. -/
def Tiles (a b : Nat) : List Passage → Prop
  | [] => a = b
  | q :: qs => q.start = a ∧ Tiles q.stop b qs

theorem tiles_consecutive (k : Nat) (ts : List Token) :
    Tiles k (k + span ts) (consecutive k ts) := by
  induction ts generalizing k with
  | nil => rfl
  | cons t ts ih => exact ⟨rfl, by simpa [ofToken, Nat.add_assoc] using ih (k + t.raw.length)⟩

theorem Tiles.stop_eq {a b : Nat} {qs : List Passage} (h : Tiles a b qs)
    (hqs : ∀ q ∈ qs, q.stop = q.start + q.token.raw.length) :
    b = a + span (qs.map Passage.token) := by
  induction qs generalizing a with
  | nil => exact h.symm
  | cons q qs ih =>
    have hrest := ih h.2 fun r hr => hqs r (List.mem_cons_of_mem q hr)
    rw [hrest, hqs q (by simp), h.1, List.map_cons, span_cons, Nat.add_assoc]

/-- Where the last passage ends; the offset, if there is none. -/
def lastStop (a : Nat) (qs : List Passage) : Nat := (qs.getLast?.map stop).getD a

@[simp] theorem lastStop_nil (a : Nat) : lastStop a [] = a := rfl

@[simp] theorem lastStop_cons (a : Nat) (q : Passage) (qs : List Passage) :
    lastStop a (q :: qs) = lastStop q.stop qs := by
  cases h : qs.getLast? <;> simp [lastStop, List.getLast?_cons, h]

theorem exists_of_cons_sublist {k : Nat} {ts : List Token} {h : Passage} {qs : List Passage}
    (hsub : (h :: qs).Sublist (consecutive k ts)) :
    ∃ us t vs, ts = us ++ t :: vs ∧ h = ofToken (k + span us) t ∧
      qs.Sublist (consecutive (k + span us + t.raw.length) vs) := by
  induction ts generalizing k with
  | nil => simp [consecutive] at hsub
  | cons t ts ih =>
    cases hsub with
    | cons _ hsub =>
      obtain ⟨us, u, vs, rfl, rfl, hqs⟩ := ih hsub
      exact ⟨t :: us, u, vs, rfl, by simp [Nat.add_assoc], by simpa [Nat.add_assoc] using hqs⟩
    | cons_cons _ hsub => exact ⟨[], t, ts, rfl, rfl, hsub⟩

theorem exists_prefix_of_sublist {k : Nat} {ts : List Token} {qs : List Passage}
    (h : qs.Sublist (consecutive k ts)) :
    ∃ us vs, ts = us ++ vs ∧ lastStop k qs = k + span us ∧ qs.Sublist (consecutive k us) := by
  induction ts generalizing k qs with
  | nil => exact ⟨[], [], rfl, by simp [List.sublist_nil.mp h], h⟩
  | cons t ts ih =>
    cases h with
    | cons _ h =>
      cases qs with
      | nil => exact ⟨[], t :: ts, rfl, rfl, List.nil_sublist _⟩
      | cons q qs =>
        obtain ⟨us, vs, rfl, hstop, hsub⟩ := ih h
        refine ⟨t :: us, vs, rfl, ?_, hsub.cons _⟩
        simpa [Nat.add_assoc] using hstop
    | cons_cons _ h =>
      obtain ⟨us, vs, rfl, hstop, hsub⟩ := ih h
      refine ⟨t :: us, vs, rfl, ?_, hsub.cons_cons _⟩
      simpa [ofToken, Nat.add_assoc] using hstop

theorem body_sublist (p : Passage) (qs : List Passage) : (p.body qs).Sublist qs :=
  List.takeWhile_sublist _

theorem eq_consecutive_iff {k : Nat} {ts : List Token} (hts : ∀ t ∈ ts, t.raw ≠ [])
    {qs : List Passage} (h : qs.Sublist (consecutive k ts)) :
    qs = consecutive k ts ↔ span (qs.map Passage.token) = span ts := by
  have htokens := map_token_consecutive k ts
  constructor
  · rintro rfl
    rw [htokens]
  · intro hspan
    have hsub : (qs.map Passage.token).Sublist ts := htokens ▸ h.map Passage.token
    have hmap : qs.map Passage.token = (consecutive k ts).map Passage.token := by
      rw [eq_of_span_eq hts hsub hspan, htokens]
    exact h.eq_of_length (by simpa only [List.length_map] using congrArg List.length hmap)

section Section

variable {source : Text} {p : Passage}

theorem IsSectionAmong.token_mem (hp : IsSectionAmong source p) : p.token ∈ Token.ofText source := by
  obtain ⟨q, rs, hsub, -, rfl⟩ := hp
  have hq : q.token ∈ Token.ofText source :=
    token_mem_of_mem_consecutive (hsub.subset List.mem_cons_self)
  exact hq

namespace IsSectionAmong

variable (hp : IsSectionAmong source p) {qs : List Passage} (hqs : p.inner = some qs)
include hp hqs

theorem apart : (ofToken p.start p.token :: qs).Pairwise fun q r => q.stop ≤ r.start := by
  obtain ⟨q, rs, hsub, -, rfl⟩ := hp
  obtain rfl : q.body rs = qs := by simpa [asSection] using hqs
  have hq : ofToken q.start q.token = q := by
    obtain ⟨us, t, vs, -, rfl⟩ := mem_consecutive (hsub.subset List.mem_cons_self)
    rfl
  simp only [start_asSection, token_asSection, hq]
  exact apart_index.sublist (((body_sublist q rs).cons_cons q).trans hsub)

omit hqs

/-- The blocks of a document before, in and behind a section, and what it holds of those in it. -/
theorem exists_split :
    ∃ us vs ws, Token.ofText source = us ++ ((p.token :: vs) ++ ws) ∧ p.start = span us ∧
      p.stop = span us + span (p.token :: vs) ∧
      p.stop = lastStop (p.start + p.token.raw.length) p.innerList ∧
      p.innerList.Sublist (consecutive (p.start + p.token.raw.length) vs) := by
  obtain ⟨q, rs, hsub, -, rfl⟩ := hp
  obtain ⟨us, t, vs, hts, rfl, hrs⟩ := exists_of_cons_sublist hsub
  rw [Nat.zero_add] at *
  obtain ⟨vs, ws, rfl, hstop, hinner⟩ :=
    exists_prefix_of_sublist ((body_sublist (ofToken (span us) t) rs).trans hrs)
  have hstop' : ((ofToken (span us) t).asSection rs).stop =
      span us + t.raw.length + span vs := hstop
  exact ⟨us, vs, ws, hts, rfl, by rw [hstop', span_cons]; exact Nat.add_assoc _ _ _, rfl, hinner⟩

include hqs

/-- The blocks of the document from the heading of a section to its end, and what it holds of them. -/
theorem exists_blocks :
    ∃ vs : List Token, (∀ v ∈ vs, v.raw ≠ []) ∧
      between source (p.start + p.token.raw.length) p.stop =
        consecutive (p.start + p.token.raw.length) vs ∧
      qs.Sublist (consecutive (p.start + p.token.raw.length) vs) ∧
      p.stop = p.start + p.token.raw.length + span vs ∧
      p.stop = lastStop (p.start + p.token.raw.length) qs ∧
      p.text source = p.token.raw ++ vs.flatMap raw := by
  obtain rfl : p.innerList = qs := by simp [innerList, hqs]
  obtain ⟨us, vs, ws, hts, hstart, hstop, hlast, hinner⟩ := hp.exists_split
  have hsplit : Token.ofText source = (us ++ [p.token]) ++ (vs ++ ws) := by simp [hts]
  have hstop' : p.stop = p.start + p.token.raw.length + span vs := by
    rw [hstop, hstart, span_cons, Nat.add_assoc]
  refine ⟨vs, fun v hv => raw_ne_nil_of_mem (by rw [hsplit]; simp [hv]), ?_, hinner, hstop', hlast,
    text_eq hts hstart hstop⟩
  have hbetween := between_span hsplit
  simp only [span_append, span_cons, span_nil, Nat.add_zero] at hbetween
  rw [hstop', hstart]
  exact hbetween

theorem tiles_iff :
    Tiles (p.start + p.token.raw.length) p.stop qs ↔
      qs = between source (p.start + p.token.raw.length) p.stop := by
  have hplain : ∀ q ∈ qs, q.stop = q.start + q.token.raw.length := fun q hq =>
    (hp.drawn_innerList.isPlain q (by simpa [innerList, hqs] using hq)).stop_eq
  obtain ⟨vs, hraw, hbetween, hsub, hstop, -, -⟩ := hp.exists_blocks hqs
  rw [hbetween]
  constructor
  · intro htiles
    have hspan := htiles.stop_eq hplain
    exact (eq_consecutive_iff hraw hsub).mpr (by omega)
  · rintro rfl
    rw [hstop]
    exact tiles_consecutive _ vs

theorem text_eq_iff :
    p.text source = p.token.raw ++ qs.flatMap (fun q => q.token.raw) ↔
      qs = between source (p.start + p.token.raw.length) p.stop := by
  obtain ⟨vs, hraw, hbetween, hsub, -, -, htext⟩ := hp.exists_blocks hqs
  have hraws : qs.flatMap (fun q => q.token.raw) = (qs.map Passage.token).flatMap raw :=
    (List.flatMap_map _ _ qs).symm
  rw [hbetween, htext, List.append_cancel_left_eq, hraws]
  constructor
  · intro htexts
    exact (eq_consecutive_iff hraw hsub).mpr (congrArg List.length htexts).symm
  · rintro rfl
    rw [map_token_consecutive]

end IsSectionAmong

theorem IsSectionAmong.start_lt_stop (hp : IsSectionAmong source p) : p.start < p.stop := by
  obtain ⟨qs, hqs⟩ : ∃ qs, p.inner = some qs := by
    obtain ⟨q, rs, -, -, rfl⟩ := hp
    exact ⟨_, rfl⟩
  obtain ⟨vs, -, -, -, hstop, -⟩ := hp.exists_blocks hqs
  have hraw := List.length_pos_iff.mpr (raw_ne_nil_of_mem hp.token_mem)
  omega

end Section

end Passage

namespace Selection

open Passage Token

/-- What a section holds stands behind its heading in the order of the document, and the section ends
with the last of it. There is no gap in it, and its text is its heading followed by what it holds, if
and only if it holds all of the blocks up to its end; so it is if the scope segments come first. -/
theorem tiles_of_mem_query {source : Text} {ss : List Segment} {p : Passage}
    (hp : p ∈ ((ofText source).query ss).passages) {qs : List Passage} (hqs : p.inner = some qs) :
    (ofToken p.start p.token :: qs).Pairwise (fun q r => q.stop ≤ r.start) ∧
    p.stop = lastStop (p.start + p.token.raw.length) qs ∧
    (Tiles (p.start + p.token.raw.length) p.stop qs ↔
      qs = between source (p.start + p.token.raw.length) p.stop) ∧
    (p.text source = p.token.raw ++ qs.flatMap (fun q => q.token.raw) ↔
      qs = between source (p.start + p.token.raw.length) p.stop) ∧
    (Segment.ScopesFirst ss → Tiles (p.start + p.token.raw.length) p.stop qs) := by
  rw [passages_ofText] at hp
  have hplain {q : Passage} (hq : q ∈ index source ∨ q ∈ items (index source)) : q.inner = none :=
    hq.elim (fun hq => (isPlain_of_mem_index hq).inner_eq) fun hq =>
      (isPlain_of_mem_items (fun _ hr => isPlain_of_mem_index hr) hq).1.inner_eq
  rcases Segment.mem_resolve_of_drawn (Or.inl (List.Sublist.refl (index source))) hp with hp' | hsec
  · simp [hplain hp'] at hqs
  · refine ⟨hsec.apart hqs, ?_, hsec.tiles_iff hqs, hsec.text_eq_iff hqs, fun hss => ?_⟩
    · obtain ⟨-, -, -, -, -, hstop, -⟩ := hsec.exists_blocks hqs
      exact hstop
    · rw [hsec.tiles_iff hqs]
      rcases Segment.resolve_of_scopesFirst hss source with h | h | h
      · simpa [hqs] using (h p hp).inner_eq
      · simp [hplain (Or.inl (h hp))] at hqs
      · simp [hplain (Or.inr (h hp))] at hqs

theorem tiles_of_mem_query_nested :
    let scope : Segment := ⟨"section".toList, some (.scope none), none, none⟩
    let source := "# A\nx\n## B\n".toList
    ∃ p ∈ ((ofText source).query [scope]).passages, ∃ qs, p.inner = some qs ∧
      p.toSpan = ⟨0, 11⟩ ∧ Segment.ScopesFirst [scope] ∧
      Tiles (p.start + p.token.raw.length) p.stop qs := by
  intro scope source
  have hmem : (⟨0, 11⟩, true) ∈ ((ofText source).query [scope]).passages.map
      fun p => (p.toSpan, p.inner.isSome) := by decide +kernel
  obtain ⟨p, hp, he⟩ := List.mem_map.mp hmem
  obtain ⟨hspan, hsome⟩ := Prod.mk.inj he
  obtain ⟨qs, hqs⟩ := Option.isSome_iff_exists.mp hsome
  exact ⟨p, hp, qs, hqs, hspan, by decide, (tiles_of_mem_query hp hqs).2.2.2.2 (by decide)⟩

/-- A stage of headings leaves out what stands between them, so that a section of headings has gaps. -/
theorem exists_not_tiles :
    let heading : Segment := ⟨"heading".toList, some (.heading none), none, none⟩
    let scope : Segment := ⟨"section".toList, some (.scope none), none, none⟩
    let source := "# A\nx\n## B\n".toList
    ∃ p ∈ ((ofText source).query [heading, scope]).passages, ∃ qs, p.inner = some qs ∧
      p.toSpan = ⟨0, 11⟩ ∧ qs.map toSpan = [⟨6, 11⟩] ∧
      ¬ Tiles (p.start + p.token.raw.length) p.stop qs ∧
      p.text source ≠ p.token.raw ++ qs.flatMap fun q => q.token.raw := by
  intro heading scope source
  have hmem : (⟨0, 11⟩, "# A\n".toList, some ([⟨6, 11⟩], "## B\n".toList)) ∈
      ((ofText source).query [heading, scope]).passages.map fun p =>
        (p.toSpan, p.token.raw, p.inner.map fun qs =>
          (qs.map toSpan, qs.flatMap fun q => q.token.raw)) := by decide +kernel
  obtain ⟨p, hp, he⟩ := List.mem_map.mp hmem
  simp only [Prod.mk.injEq, Option.map_eq_some_iff] at he
  obtain ⟨hspan, hraw, qs, hqs, hspans, hraws⟩ := he
  obtain ⟨hstart, hstop⟩ := Span.mk.inj hspan
  refine ⟨p, hp, qs, hqs, hspan, hspans, ?_, ?_⟩
  · intro htiles
    obtain ⟨q, rs, rfl, hq, -⟩ := List.map_eq_cons_iff.mp hspans
    have hgap : q.start = p.start + p.token.raw.length := htiles.1
    rw [hstart, hraw, (Span.mk.inj hq).1] at hgap
    exact absurd hgap (by decide)
  · rw [hraws, hraw, Passage.text, hstart, hstop]
    decide

end Selection

end Excerpt
