import Excerpt.Proofs.Reachable
import Excerpt.Proofs.Shift

/-!
How sections stand to each other. A section runs up to the first heading behind its own that is not
deeper, so sections of one document are nested or disjoint.
-/

namespace Excerpt

/-- A part of a text, from one offset to another. -/
@[ext] structure Span where
  start : Nat
  stop : Nat
  deriving DecidableEq, Repr

namespace Span

/-- Spans are ordered by inclusion. -/
instance : PartialOrder Span where
  le a b := b.start ≤ a.start ∧ a.stop ≤ b.stop
  le_refl _ := ⟨Nat.le_refl _, Nat.le_refl _⟩
  le_trans _ _ _ hab hbc := ⟨hbc.1.trans hab.1, hab.2.trans hbc.2⟩
  le_antisymm _ _ hab hba :=
    Span.ext (Nat.le_antisymm hba.1 hab.1) (Nat.le_antisymm hab.2 hba.2)

theorem le_def {a b : Span} : a ≤ b ↔ b.start ≤ a.start ∧ a.stop ≤ b.stop := Iff.rfl

instance : DecidableLE Span := fun _ _ => inferInstanceAs (Decidable (_ ∧ _))

def Apart (a b : Span) : Prop := a.stop ≤ b.start ∨ b.stop ≤ a.start

instance (a b : Span) : Decidable (Apart a b) := inferInstanceAs (Decidable (_ ∨ _))

/-- Nested or disjoint. -/
def Fits (a b : Span) : Prop := a ≤ b ∨ b ≤ a ∨ a.Apart b

instance (a b : Span) : Decidable (Fits a b) := inferInstanceAs (Decidable (_ ∨ _ ∨ _))

theorem Apart.symm {a b : Span} (h : a.Apart b) : b.Apart a := Or.symm h

end Span

theorem Token.ends_some (t : Token) (d : Nat) :
    t.ends (some d) = (t.isHeading && t.depth?.any (· ≤ d)) := by
  cases h : t.depth? <;> simp [ends, h]

namespace Passage

open Token

def toSpan (p : Passage) : Span := ⟨p.start, p.stop⟩

/-- Where the first heading behind an offset starts that is not deeper than `depth`; the end of the
document, if there is none. -/
def sectionEnd (source : Text) (offset depth : Nat) : Nat :=
  (((index source).find? fun q =>
    offset < q.start && (q.token.isHeading && q.token.depth?.any (· ≤ depth))).map start).getD
      source.length

/-- The blocks of a document that lie between two offsets. -/
def between (source : Text) (a b : Nat) : List Passage :=
  (index source).filter fun q => a ≤ q.start && q.stop ≤ b

/-- A heading of the document with all that follows it, up to the next heading that is not deeper. -/
structure IsFullSection (source : Text) (p : Passage) : Prop where
  heading_mem : ofToken p.start p.token ∈ index source
  isHeading : p.token.isHeading = true
  stop_eq : ∃ d, p.token.depth? = some d ∧ p.stop = sectionEnd source p.start d
  inner_eq : p.inner = some (between source (p.start + p.token.raw.length) p.stop)

theorem apart_consecutive (k : Nat) (ts : List Token) :
    (consecutive k ts).Pairwise fun p q => p.stop ≤ q.start := by
  induction ts generalizing k with
  | nil => exact List.Pairwise.nil
  | cons t ts ih =>
    exact List.pairwise_cons.mpr ⟨fun q hq => (bounds_of_mem_consecutive hq).1, ih _⟩

theorem token_mem_of_mem_consecutive {k : Nat} {ts : List Token} {p : Passage}
    (h : p ∈ consecutive k ts) : p.token ∈ ts := by
  obtain ⟨us, t, vs, rfl, rfl⟩ := mem_consecutive h
  simp [ofToken]

theorem eq_or_apart {ps : List Passage} (hps : ps.Pairwise fun p q => p.stop ≤ q.start)
    {p q : Passage} (hp : p ∈ ps) (hq : q ∈ ps) : p = q ∨ p.toSpan.Apart q.toSpan := by
  have hapart : ps.Pairwise fun p q => p.toSpan.Apart q.toSpan := hps.imp Or.inl
  have hsymm : Std.Symm fun p q : Passage => p.toSpan.Apart q.toSpan :=
    ⟨fun _ _ => Span.Apart.symm⟩
  exact or_iff_not_imp_left.mpr fun hne => hapart.forall hp hq hne

theorem fits_of_apart {ps : List Passage} (hps : ps.Pairwise fun p q => p.stop ≤ q.start)
    (hlt : ∀ p ∈ ps, p.start < p.stop) {p q : Passage} (hp : p ∈ ps) (hq : q ∈ ps) :
    p.toSpan.Fits q.toSpan ∧ (p.start = q.start → p = q) := by
  rcases eq_or_apart hps hp hq with rfl | hapart
  · exact ⟨Or.inl (le_refl _), fun _ => rfl⟩
  · refine ⟨Or.inr (Or.inr hapart), fun hstart => ?_⟩
    have hp' := hlt p hp
    have hq' := hlt q hq
    simp only [Span.Apart, toSpan] at hapart
    omega

section Index

variable {source : Text}

theorem start_lt_stop_of_mem_index {p : Passage} (h : p ∈ index source) : p.start < p.stop :=
  start_lt_stop_of_mem_consecutive (fun _ ht => raw_ne_nil_of_mem ht) h

theorem index_append {us vs : List Token} (h : Token.ofText source = us ++ vs) :
    index source = consecutive 0 us ++ consecutive (span us) vs := by
  rw [index, h, consecutive_append, Nat.zero_add]

theorem fits_of_mem_index {p q : Passage} (hp : p ∈ index source) (hq : q ∈ index source) :
    p.toSpan.Fits q.toSpan ∧ (p.start = q.start → p = q) :=
  fits_of_apart (apart_consecutive 0 _) (fun _ h => start_lt_stop_of_mem_index h) hp hq

theorem sectionEnd_le {offset depth : Nat} : sectionEnd source offset depth ≤ source.length := by
  unfold sectionEnd
  cases h : (index source).find? _ with
  | none => simp
  | some r =>
    have hr := isPlain_of_mem_index (List.mem_of_find?_eq_some h)
    have hle := hr.stop_le
    rw [hr.stop_eq] at hle
    simp only [Option.map_some, Option.getD_some]
    omega

theorem sectionEnd_le_start {offset depth : Nat} {q : Passage} (hq : q ∈ index source)
    (hlt : offset < q.start) (hends : q.token.ends (some depth) = true) :
    sectionEnd source offset depth ≤ q.start := by
  rw [ends_some] at hends
  unfold sectionEnd
  cases h : (index source).find? _ with
  | none => simpa [hlt, hends] using List.find?_eq_none.mp h q hq
  | some r =>
    obtain ⟨-, as, bs, hsplit, has⟩ := List.find?_eq_some_iff_append.mp h
    have horder : InOrder (r :: bs) := by
      have := inOrder_consecutive 0 (Token.ofText source)
      rw [← index, hsplit] at this
      exact (List.pairwise_append.mp this).2.1
    rw [hsplit] at hq
    rcases List.mem_append.mp hq with hq | hq
    · simpa [hlt, hends] using has q hq
    · rcases List.mem_cons.mp hq with rfl | hq
      · exact Nat.le_refl _
      · exact (List.pairwise_cons.mp horder).1 q hq

theorem exists_of_sectionEnd (source : Text) (offset depth : Nat) :
    sectionEnd source offset depth = source.length ∨
      ∃ r ∈ index source, offset < r.start ∧ r.token.ends (some depth) = true ∧
        sectionEnd source offset depth = r.start := by
  unfold sectionEnd
  cases h : (index source).find? _ with
  | none => exact Or.inl rfl
  | some r =>
    have hfound := List.find?_some h
    simp only [Bool.and_eq_true, decide_eq_true_eq] at hfound
    refine Or.inr ⟨r, List.mem_of_find?_eq_some h, hfound.1, ?_, rfl⟩
    rw [ends_some]
    simpa using hfound.2

end Index

namespace IsFullSection

variable {source : Text} {p q : Passage}

theorem eq_of_start_eq (hp : p.IsFullSection source) (hq : q.IsFullSection source)
    (h : p.start = q.start) : p = q := by
  have hheading := (fits_of_mem_index hp.heading_mem hq.heading_mem).2 h
  have htoken : p.token = q.token := (Passage.mk.inj hheading).1
  obtain ⟨d, hd, hstop⟩ := hp.stop_eq
  obtain ⟨e, he, hstop'⟩ := hq.stop_eq
  obtain rfl : d = e := by simpa [← htoken, hd] using he
  have hpq : p.stop = q.stop := by rw [hstop, hstop', h]
  exact Passage.ext htoken h hpq (by rw [hp.inner_eq, hq.inner_eq, h, htoken, hpq])

/-- A section that starts inside of another one ends inside of it: its heading is deeper, so that
what ends the outer section would end it as well. -/
theorem stop_le_of_start_lt (hp : p.IsFullSection source) (hq : q.IsFullSection source)
    (hstart : p.start < q.start) (hinside : q.start < p.stop) : q.stop ≤ p.stop := by
  obtain ⟨d, hd, hstop⟩ := hp.stop_eq
  obtain ⟨e, he, hstop'⟩ := hq.stop_eq
  have hdeeper : q.token.ends (some d) = false := by
    by_contra hends
    have hle : sectionEnd source p.start d ≤ (ofToken q.start q.token).start :=
      sectionEnd_le_start hq.heading_mem hstart (Bool.not_eq_false _ ▸ hends)
    exact absurd hinside (Nat.not_lt.mpr (hstop ▸ hle))
  rcases exists_of_sectionEnd source p.start d with hend | ⟨r, hr, -, hends, hend⟩
  · rw [hstop, hstop', hend]
    exact sectionEnd_le
  · have hends' : r.token.ends (some e) = true := by
      rw [← he]
      exact ends_of_deeper hq.isHeading he (hd ▸ hdeeper) (hd ▸ hends)
    rw [hstop, hstop', hend]
    exact sectionEnd_le_start hr (by omega) hends'

theorem fits (hp : p.IsFullSection source) (hq : q.IsFullSection source) :
    p.toSpan.Fits q.toSpan := by
  rcases Nat.lt_trichotomy p.start q.start with h | h | h
  · by_cases hinside : q.start < p.stop
    · exact Or.inr (Or.inl ⟨Nat.le_of_lt h, hp.stop_le_of_start_lt hq h hinside⟩)
    · exact Or.inr (Or.inr (Or.inl (Nat.le_of_not_lt hinside)))
  · exact Or.inl (hp.eq_of_start_eq hq h ▸ le_refl _)
  · by_cases hinside : p.start < q.stop
    · exact Or.inl ⟨Nat.le_of_lt h, hq.stop_le_of_start_lt hp h hinside⟩
    · exact Or.inr (Or.inr (Or.inr (Nat.le_of_not_lt hinside)))

end IsFullSection

section Parts

variable {source : Text} {us vs ws : List Token}

theorem between_span (h : Token.ofText source = us ++ (vs ++ ws)) :
    between source (span us) (span us + span vs) = consecutive (span us) vs := by
  have hindex : index source = consecutive 0 us ++ (consecutive (span us) vs ++
      consecutive (span us + span vs) ws) := by
    rw [index_append h, consecutive_append]
  have hbefore : (consecutive 0 us).filter (fun q => span us ≤ q.start &&
      q.stop ≤ span us + span vs) = [] := by
    refine List.filter_eq_nil_iff.mpr fun q hq => ?_
    have hlt := start_lt_stop_of_mem_index (hindex ▸ List.mem_append_left _ hq)
    have hle := (bounds_of_mem_consecutive hq).2
    simp only [Bool.and_eq_true, decide_eq_true_eq]
    omega
  have hinside : (consecutive (span us) vs).filter (fun q => span us ≤ q.start &&
      q.stop ≤ span us + span vs) = consecutive (span us) vs :=
    List.filter_eq_self.mpr fun q hq => by simpa using bounds_of_mem_consecutive hq
  have hbehind : (consecutive (span us + span vs) ws).filter (fun q => span us ≤ q.start &&
      q.stop ≤ span us + span vs) = [] := by
    refine List.filter_eq_nil_iff.mpr fun q hq => ?_
    have hmem : q ∈ index source :=
      hindex ▸ List.mem_append_right _ (List.mem_append_right _ hq)
    have hlt := start_lt_stop_of_mem_index hmem
    have hle := (bounds_of_mem_consecutive hq).1
    simp only [Bool.and_eq_true, decide_eq_true_eq]
    omega
  rw [between, hindex, List.filter_append, List.filter_append, hbefore, hinside, hbehind,
    List.nil_append, List.append_nil]

theorem sectionEnd_span {t : Token} {d : Nat} (h : Token.ofText source = us ++ t :: (vs ++ ws))
    (hvs : ∀ v ∈ vs, v.ends (some d) = false) (hws : ∀ w ∈ ws.head?, w.ends (some d) = true) :
    sectionEnd source (span us) d = span us + span (t :: vs) := by
  have hsplit : Token.ofText source = (us ++ t :: vs) ++ ws := by simp [h]
  have hraw : t.raw ≠ [] := raw_ne_nil_of_mem (h ▸ List.mem_append_right _ List.mem_cons_self)
  have hpos : 0 < t.raw.length := List.length_pos_iff.mpr hraw
  have hbefore {q : Passage} (hq : q ∈ consecutive 0 us) : ¬ span us < q.start := by
    have hlt := start_lt_stop_of_mem_index (index_append h ▸ List.mem_append_left _ hq)
    have hle := (bounds_of_mem_consecutive hq).2
    omega
  have hnone : (consecutive 0 (us ++ t :: vs)).find? (fun q => span us < q.start &&
      (q.token.isHeading && q.token.depth?.any (· ≤ d))) = none := by
    refine List.find?_eq_none.mpr fun q hq => ?_
    rw [consecutive_append, Nat.zero_add, consecutive, List.mem_append, List.mem_cons] at hq
    rw [← ends_some]
    rcases hq with hq | rfl | hq
    · simp [hbefore hq]
    · simp [ofToken]
    · simp [hvs _ (token_mem_of_mem_consecutive hq)]
  rw [sectionEnd, index_append hsplit, List.find?_append, hnone, Option.none_or]
  cases ws with
  | nil => simp [consecutive, length_eq_span hsplit]
  | cons w ws =>
    have hends : w.isHeading = true ∧ w.depth?.any (· ≤ d) = true := by
      simpa [ends_some] using hws w rfl
    rw [consecutive, List.find?_cons_of_pos (by simp [ofToken, hends, Nat.add_pos_left hpos])]
    simp [ofToken]

end Parts

theorem IsSectionOf.isFullSection {source : Text} {p : Passage}
    (h : IsSectionOf 0 (Token.ofText source) p) : p.IsFullSection source := by
  obtain ⟨us, t, vs, ws, hts, rfl, ht, hvs, hws⟩ := h
  rw [Nat.zero_add]
  obtain ⟨d, hd⟩ : ∃ d, t.depth? = some d := depthsKnown_blocks _ t (by
    change t ∈ Token.ofText source
    simp [hts]) ht
  have hinner : Token.ofText source = (us ++ [t]) ++ (vs ++ ws) := by simp [hts]
  refine ⟨?_, ht, ⟨d, hd, ?_⟩, ?_⟩
  · simp [index_append hts, sectionAt, consecutive]
  · exact (sectionEnd_span hts (hd ▸ hvs) (hd ▸ hws)).symm
  · simpa [sectionAt, Nat.add_assoc] using (between_span hinner).symm

end Passage

namespace Selection

open Passage

/-- Whatever chain of scope segments selects them, sections are full sections of the document: the
sections that they lie in neither shorten nor lengthen them. Any two of them are nested or disjoint. -/
theorem isFullSection_of_mem_query {source : Text} {ss : List Segment}
    (hss : ∀ s ∈ ss, s.isScope = true) :
    (ss ≠ [] → ∀ p ∈ ((ofText source).query ss).passages, p.IsFullSection source) ∧
    ∀ p ∈ ((ofText source).query ss).passages, ∀ q ∈ ((ofText source).query ss).passages,
      p.toSpan.Fits q.toSpan ∧ (p.start = q.start → p = q) := by
  cases ss with
  | nil =>
    refine ⟨fun hne => absurd rfl hne, fun p hp q hq => ?_⟩
    rw [passages_ofText] at hp hq
    exact fits_of_mem_index hp hq
  | cons s ss =>
    have hfull {p : Passage} (hp : p ∈ ((ofText source).query (s :: ss)).passages) :
        p.IsFullSection source := (isSectionOf_of_mem_query (by simp) hss hp).isFullSection
    exact ⟨fun _ p hp => hfull hp, fun p hp q hq =>
      ⟨(hfull hp).fits (hfull hq), (hfull hp).eq_of_start_eq (hfull hq)⟩⟩

theorem isFullSection_of_mem_query_skipped :
    let ss : List Segment := List.replicate 2 ⟨"section".toList, some (.scope none), none, none⟩
    let source := "# A\n### B\n## C\nx\n# D\n".toList
    ss ≠ [] ∧ ∃ p ∈ ((ofText source).query ss).passages,
      ∃ q ∈ ((ofText source).query ss).passages,
        p.toSpan = ⟨4, 10⟩ ∧ q.toSpan = ⟨10, 17⟩ ∧ p.IsFullSection source ∧
          p.toSpan.Fits q.toSpan := by
  intro ss source
  have hscope : ∀ s ∈ ss, s.isScope = true := by decide
  have hfirst : ⟨4, 10⟩ ∈ ((ofText source).query ss).passages.map toSpan := by decide +kernel
  have hsecond : ⟨10, 17⟩ ∈ ((ofText source).query ss).passages.map toSpan := by decide +kernel
  obtain ⟨p, hp, hpspan⟩ := List.mem_map.mp hfirst
  obtain ⟨q, hq, hqspan⟩ := List.mem_map.mp hsecond
  have hsections : _ ∧ ∀ p ∈ ((ofText source).query ss).passages, _ :=
    isFullSection_of_mem_query hscope
  exact ⟨by simp [ss], p, hp, q, hq, hpspan, hqspan, hsections.1 (by simp [ss]) p hp,
    (hsections.2 p hp q hq).1⟩

end Selection

end Excerpt
