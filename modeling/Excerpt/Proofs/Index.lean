import Excerpt.Proofs.Blocks

/-!
The index of a document: its blocks one after the other, from its start to its end.
-/

namespace Excerpt

/-- How many characters blocks take up. -/
def Token.span (ts : List Token) : Nat := (ts.flatMap Token.raw).length

namespace Token

@[simp] theorem span_nil : span [] = 0 := rfl

@[simp] theorem span_cons (t : Token) (ts : List Token) : span (t :: ts) = t.raw.length + span ts := by
  simp [span]

@[simp] theorem span_append (ts us : List Token) : span (ts ++ us) = span ts + span us := by
  simp [span]

section Parts

variable {source : Text} {us vs : List Token} (h : ofText source = us ++ vs)
include h

theorem take_span : source.take (span us) = us.flatMap raw := by
  conv_lhs => rw [← flatMap_raw_ofText source, h, List.flatMap_append]
  exact List.take_left

theorem drop_span : source.drop (span us) = vs.flatMap raw := by
  conv_lhs => rw [← flatMap_raw_ofText source, h, List.flatMap_append]
  exact List.drop_left

theorem length_eq_span : source.length = span us + span vs := by
  conv_lhs => rw [← flatMap_raw_ofText source, h]
  exact span_append us vs

end Parts

end Token

namespace Passage

open Token

theorem consecutive_append (k : Nat) (ts us : List Token) :
    consecutive k (ts ++ us) = consecutive k ts ++ consecutive (k + span ts) us := by
  induction ts generalizing k with
  | nil => simp [consecutive]
  | cons t ts ih => simp [consecutive, ih, Nat.add_assoc]

@[simp] theorem map_token_consecutive (k : Nat) (ts : List Token) :
    (consecutive k ts).map Passage.token = ts := by
  induction ts generalizing k with
  | nil => rfl
  | cons t ts ih => simp [consecutive, ofToken, ih]

theorem expand_consecutive (k : Nat) (ts : List Token) :
    expand (consecutive k ts) = consecutive k ts := by
  induction ts generalizing k with
  | nil => rfl
  | cons t ts ih =>
    rw [consecutive, expand, List.flatMap_cons]
    exact congrArg (ofToken k t :: ·) (ih _)

theorem mem_consecutive {k : Nat} {ts : List Token} {p : Passage} (h : p ∈ consecutive k ts) :
    ∃ us t vs, ts = us ++ t :: vs ∧ p = ofToken (k + span us) t := by
  induction ts generalizing k with
  | nil => simp [consecutive] at h
  | cons t ts ih =>
    rcases List.mem_cons.mp h with rfl | h
    · exact ⟨[], t, ts, rfl, rfl⟩
    · obtain ⟨us, u, vs, rfl, rfl⟩ := ih h
      exact ⟨t :: us, u, vs, rfl, by simp [Nat.add_assoc]⟩

theorem bounds_of_mem_consecutive {k : Nat} {ts : List Token} {p : Passage}
    (h : p ∈ consecutive k ts) : k ≤ p.start ∧ p.stop ≤ k + span ts := by
  obtain ⟨us, t, vs, rfl, rfl⟩ := mem_consecutive h
  simp only [ofToken, span_append, span_cons]
  omega

theorem start_lt_stop_of_mem_consecutive {k : Nat} {ts : List Token} (hts : ∀ t ∈ ts, t.raw ≠ [])
    {p : Passage} (h : p ∈ consecutive k ts) : p.start < p.stop := by
  obtain ⟨us, t, vs, rfl, rfl⟩ := mem_consecutive h
  exact Nat.lt_add_of_pos_right (List.length_pos_iff.mpr (hts t (by simp)))

theorem head?_consecutive (k : Nat) (ts : List Token) :
    (consecutive k ts).head? = ts.head?.map (ofToken k) := by
  cases ts <;> rfl

theorem stop_getLast?_consecutive (k : Nat) (ts : List Token) :
    ∀ p ∈ (consecutive k ts).getLast?, p.stop = k + span ts := by
  intro p hp
  rcases List.eq_nil_or_concat ts with rfl | ⟨ts, t, rfl⟩
  · simp [consecutive] at hp
  · rw [List.concat_eq_append, consecutive_append] at hp
    simp only [consecutive, List.getLast?_append, List.getLast?_singleton, Option.some_or,
      Option.mem_def, Option.some.injEq] at hp
    simp [← hp, ofToken, Nat.add_assoc]

theorem isChain_consecutive {k : Nat} {ts : List Token} {P : Nat → Prop}
    (h : ∀ us vs, us ++ vs = ts → us ≠ [] → vs ≠ [] → P (k + span us)) :
    (consecutive k ts).IsChain fun p q => p.stop = q.start ∧ P q.start := by
  induction ts generalizing k with
  | nil => simp [consecutive]
  | cons t ts ih =>
    refine List.isChain_cons.mpr ⟨?_, ?_⟩
    · intro q hq
      rw [head?_consecutive] at hq
      obtain ⟨u, hu, rfl⟩ := Option.map_eq_some_iff.mp hq
      have hne : ts ≠ [] := by rintro rfl; simp at hu
      exact ⟨rfl, by simpa [ofToken] using h [t] ts rfl (by simp) hne⟩
    · refine ih fun us vs he _ hv => ?_
      simpa [Nat.add_assoc] using h (t :: us) vs (by simp [he]) (by simp) hv

/-- A passage from one block to another covers the texts of the blocks between. -/
theorem text_eq {source : Text} {us ts ws : List Token} (h : Token.ofText source = us ++ (ts ++ ws))
    {p : Passage} (ha : p.start = span us) (hb : p.stop = span us + span ts) :
    p.text source = ts.flatMap raw := by
  rw [text, ha, hb, List.drop_take, drop_span h, Nat.add_sub_cancel_left, List.flatMap_append]
  exact List.take_left

theorem text_of_mem_index {source : Text} {p : Passage} (h : p ∈ index source) :
    p.text source = p.token.raw := by
  obtain ⟨us, t, vs, hts, rfl⟩ := mem_consecutive h
  have hts' : Token.ofText source = us ++ ([t] ++ vs) := hts
  refine (text_eq hts' ?_ ?_).trans ?_ <;> simp [ofToken]

theorem partsAt_of_blocks {source : Text} {us vs : List Token} (h : us ++ vs = ofText source)
    (hu : us ≠ []) (hv : vs ≠ []) : source.PartsAt (span us) := by
  obtain ⟨rest, hreads, hrest⟩ := reads_of_blocks h.symm
  obtain ⟨own, hls, hown, hlen⟩ := hreads.own
  have hcut := Text.lines_areCut source
  have howne : own ≠ [] := by
    rintro rfl
    exact hu (List.length_eq_zero_iff.mp (Nat.le_zero.mp hlen))
  have hrestne : rest ≠ [] := by
    rintro rfl
    exact hv (by rw [← hrest, blocks_nil])
  rw [hls] at hcut
  have hpart := hcut.partsAt howne hrestne
  rwa [← hls, Text.joined_lines, hown] at hpart

/-- The index covers its document: the blocks make up the text, each passage is the part of the text
that its block was read from, and passages meet only behind a line. -/
theorem index_covers (source : Text) :
    (ofText source).flatMap raw = source ∧
    (ofText source).length ≤ (Text.lines source).length ∧
    (index source).map Passage.token = ofText source ∧
    (∀ p ∈ index source, p.start < p.stop ∧ p.text source = p.token.raw) ∧
    (∀ p ∈ (index source).head?, p.start = 0) ∧
    (∀ p ∈ (index source).getLast?, p.stop = source.length) ∧
    (index source).IsChain fun p q => p.stop = q.start ∧ source.PartsAt q.start := by
  refine ⟨flatMap_raw_ofText source, ?_, map_token_consecutive 0 _, ?_, ?_, ?_, ?_⟩
  · obtain ⟨own, hls, -, hlen⟩ := (reads_ofText source).own
    simpa [hls] using hlen
  · intro p hp
    exact ⟨start_lt_stop_of_mem_consecutive (fun t ht => raw_ne_nil_of_mem ht) hp,
      text_of_mem_index hp⟩
  · intro p hp
    rw [index, head?_consecutive] at hp
    obtain ⟨t, -, rfl⟩ := Option.map_eq_some_iff.mp hp
    rfl
  · intro p hp
    rw [stop_getLast?_consecutive 0 _ p hp, span, flatMap_raw_ofText, Nat.zero_add]
  · refine isChain_consecutive fun us vs he hu hv => ?_
    simpa using partsAt_of_blocks he hu hv

end Passage

end Excerpt
