import Excerpt.Proofs.Nesting
import Excerpt.Selection.Replace
import Mathlib.Algebra.GroupWithZero.Nat
import Mathlib.Data.List.Dedup
import Mathlib.Data.Set.Finite.List
import Mathlib.Order.Preorder.Finite

/-!
Rewriting a text at spans. `Text.rewritten` says offset by offset what is to come of a text; splicing
`content` in for passages that follow one another does so at each offset.
-/

namespace Excerpt

namespace Span

def covers (i : Nat) (a : Span) : Bool := a.start ≤ i && i < a.stop

def size (a : Span) : Nat := a.stop - a.start

/-- The spans that lie in no other span of the list, each once. -/
def maximal (as : List Span) : List Span := as.dedup.filter fun a => ∀ b ∈ as, a ≤ b → a = b

/-- Pairwise nested or disjoint. -/
def Nested (as : List Span) : Prop := ∀ a ∈ as, ∀ b ∈ as, a.Fits b

instance (as : List Span) : Decidable (Nested as) :=
  inferInstanceAs (Decidable (∀ a ∈ as, ∀ b ∈ as, a.Fits b))

/-- Each maximal span is the first of the list that starts where it does. -/
def Led (as : List Span) : Prop := ∀ a ∈ maximal as, as.find? (·.start == a.start) = some a

instance (as : List Span) : Decidable (Led as) :=
  inferInstanceAs (Decidable (∀ a ∈ maximal as, as.find? (·.start == a.start) = some a))

theorem mem_maximal {as : List Span} {a : Span} :
    a ∈ maximal as ↔ a ∈ as ∧ ∀ b ∈ as, a ≤ b → a = b := by
  simp [maximal]

theorem nodup_maximal (as : List Span) : (maximal as).Nodup := as.nodup_dedup.filter _

theorem exists_le_maximal {as : List Span} {a : Span} (h : a ∈ as) : ∃ b ∈ maximal as, a ≤ b := by
  obtain ⟨b, hab, hb⟩ := as.finite_toSet.exists_le_maximal h
  exact ⟨b, mem_maximal.mpr ⟨hb.prop, fun c hc hbc => hb.eq_of_le hc hbc⟩, hab⟩

theorem led_of_start_injective {as : List Span}
    (h : ∀ a ∈ as, ∀ b ∈ as, a.start = b.start → a = b) : Led as := by
  intro a ha
  have hmem := (mem_maximal.mp ha).1
  cases hfind : as.find? (·.start == a.start) with
  | none => simpa using List.find?_eq_none.mp hfind a hmem
  | some b =>
    have hstart : b.start = a.start := by simpa using List.find?_some hfind
    rw [h b (List.mem_of_find?_eq_some hfind) a hmem hstart]

theorem maximal_subset_of_le {as bs : List Span} (hab : ∀ a ∈ as, ∃ b ∈ bs, a ≤ b)
    (hba : ∀ b ∈ bs, ∃ a ∈ as, b ≤ a) : maximal as ⊆ maximal bs := by
  intro a ha
  obtain ⟨ha, hmax⟩ := mem_maximal.mp ha
  obtain ⟨b, hb, hle⟩ := hab a ha
  have heq {c : Span} (hc : c ∈ bs) (hac : a ≤ c) : a = c := by
    obtain ⟨a', ha', hca'⟩ := hba c hc
    obtain rfl := hmax a' ha' (hac.trans hca')
    exact le_antisymm hac hca'
  obtain rfl := heq hb hle
  exact mem_maximal.mpr ⟨hb, fun c hc hac => heq hc hac⟩

theorem maximal_perm_of_le {as bs : List Span} (hab : ∀ a ∈ as, ∃ b ∈ bs, a ≤ b)
    (hba : ∀ b ∈ bs, ∃ a ∈ as, b ≤ a) : (maximal as).Perm (maximal bs) :=
  (List.perm_ext_iff_of_nodup (nodup_maximal as) (nodup_maximal bs)).mpr fun _ =>
    ⟨fun ha => maximal_subset_of_le hab hba ha, fun ha => maximal_subset_of_le hba hab ha⟩

theorem size_le_of_le {a b : Span} (h : a ≤ b) : a.size ≤ b.size := by
  have h := le_def.mp h
  simp only [size]
  omega

theorem eq_of_size_le {a b : Span} (h : a ≤ b) (hb : b.start < b.stop) (hsize : b.size ≤ a.size) :
    a = b := by
  have h := le_def.mp h
  simp only [size] at hsize
  exact Span.ext (by omega) (by omega)

/-- Spans that start where others do and lie in them are these others, if there are not more of them
and they are as long taken together. -/
theorem perm_of_leaders {as bs : List Span} (hpos : ∀ a ∈ as, a.start < a.stop)
    (hnodup : (as.map start).Nodup) (hlead : ∀ a ∈ as, ∃ b ∈ bs, b.start = a.start ∧ b ≤ a)
    (hlength : bs.length ≤ as.length) (hsize : (as.map size).sum ≤ (bs.map size).sum) :
    as.Perm bs := by
  induction as generalizing bs with
  | nil => rw [List.length_eq_zero_iff.mp (Nat.le_zero.mp hlength)]
  | cons a as ih =>
    obtain ⟨hne, hnodup'⟩ := List.nodup_cons.mp hnodup
    obtain ⟨b, hb, hstart, hle⟩ := hlead a (by simp)
    have hperm : bs.Perm (b :: bs.erase b) := List.perm_cons_erase hb
    -- no other span starts with `a`, so that what leads the others is still there without `b`
    have hlead' : ∀ c ∈ as, ∃ d ∈ bs.erase b, d.start = c.start ∧ d ≤ c := by
      intro c hc
      obtain ⟨d, hd, hdc, hdle⟩ := hlead c (List.mem_cons_of_mem a hc)
      refine ⟨d, (List.mem_erase_of_ne ?_).mpr hd, hdc, hdle⟩
      rintro rfl
      exact hne (List.mem_map.mpr ⟨c, hc, hdc.symm.trans hstart⟩)
    have hlen := hperm.length_eq
    have hsum := (hperm.map size).sum_eq
    have hba := size_le_of_le hle
    simp only [List.length_cons, List.map_cons, List.sum_cons] at hlen hsum hlength hsize
    have hrest : as.Perm (bs.erase b) :=
      ih (fun c hc => hpos c (List.mem_cons_of_mem a hc)) hnodup' hlead' (by omega) (by omega)
    have hsame := (hrest.map size).sum_eq
    obtain rfl : b = a := eq_of_size_le hle (hpos a (by simp)) (by omega)
    exact (hrest.cons b).trans hperm.symm

theorem covers_of_le {a b : Span} (h : a ≤ b) {i : Nat} (hi : a.covers i = true) :
    b.covers i = true := by
  simp only [covers, Bool.and_eq_true, decide_eq_true_eq] at hi ⊢
  exact ⟨h.1.trans hi.1, hi.2.trans_le h.2⟩

theorem any_covers_eq_of_le {as bs : List Span} (hab : ∀ a ∈ as, ∃ b ∈ bs, a ≤ b)
    (hba : ∀ b ∈ bs, ∃ a ∈ as, b ≤ a) (i : Nat) : as.any (covers i) = bs.any (covers i) := by
  rw [Bool.eq_iff_iff, List.any_eq_true, List.any_eq_true]
  constructor
  · rintro ⟨a, ha, hi⟩
    obtain ⟨b, hb, hle⟩ := hab a ha
    exact ⟨b, hb, covers_of_le hle hi⟩
  · rintro ⟨b, hb, hi⟩
    obtain ⟨a, ha, hle⟩ := hba b hb
    exact ⟨a, ha, covers_of_le hle hi⟩

end Span

namespace Text

/-- What comes of the character at an offset: `content` for each of `starts` that starts there, and the
character itself if none of `spans` covers it. -/
def patched (source content : Text) (starts spans : List Span) (i : Nat) : Text :=
  (starts.filter (·.start == i)).flatMap (fun _ => content) ++
    if spans.any (Span.covers i) then [] else source[i]?.toList

/-- A text in which `content` stands for each maximal span, and all characters that no span covers
stand as they were. -/
def rewritten (source content : Text) (spans : List Span) : Text :=
  (List.range (source.length + 1)).flatMap (patched source content (Span.maximal spans) spans)

theorem flatMap_const_of_perm {as bs : List Span} (h : as.Perm bs) (content : Text) :
    as.flatMap (fun _ => content) = bs.flatMap fun _ => content := by
  have hconst (cs : List Span) :
      cs.flatMap (fun _ => content) = (List.replicate cs.length content).flatten := by
    rw [← List.map_const, List.flatMap_def]
    rfl
  rw [hconst, hconst, h.length_eq]

theorem patched_congr (source content : Text) {starts starts' spans spans' : List Span}
    (hstarts : starts.Perm starts') {i : Nat}
    (hspans : spans.any (Span.covers i) = spans'.any (Span.covers i)) :
    patched source content starts spans i = patched source content starts' spans' i := by
  rw [patched, patched, flatMap_const_of_perm (hstarts.filter _), hspans]

/-- What a text is rewritten to depends only on what the spans cover as a whole. -/
theorem rewritten_congr (source content : Text) {as bs : List Span}
    (hab : ∀ a ∈ as, ∃ b ∈ bs, a ≤ b) (hba : ∀ b ∈ bs, ∃ a ∈ as, b ≤ a) :
    rewritten source content as = rewritten source content bs :=
  List.flatMap_congr fun i _ =>
    patched_congr source content (Span.maximal_perm_of_le hab hba) (Span.any_covers_eq_of_le hab hba i)

theorem flatMap_getElem?_range' (t : Text) (a n : Nat) :
    (List.range' a n).flatMap (fun i => t[i]?.toList) = (t.drop a).take n := by
  induction n generalizing a with
  | zero => simp
  | succ n ih =>
    rw [List.range'_succ, List.flatMap_cons, ih]
    by_cases h : a < t.length
    · rw [List.drop_eq_getElem_cons h, List.take_succ_cons, List.getElem?_eq_getElem h]
      rfl
    · have hle := Nat.le_of_not_lt h
      rw [List.getElem?_eq_none hle, List.drop_of_length_le hle,
        List.drop_of_length_le (Nat.le_succ_of_le hle)]
      simp

theorem range'_append_of_le {a b c : Nat} (hab : a ≤ b) (hbc : b ≤ c) :
    List.range' a (b - a) ++ List.range' b (c - b) = List.range' a (c - a) := by
  obtain ⟨m, rfl⟩ := Nat.exists_eq_add_of_le hab
  obtain ⟨n, rfl⟩ := Nat.exists_eq_add_of_le hbc
  rw [Nat.add_sub_cancel_left, Nat.add_sub_cancel_left, List.range'_append_1, Nat.add_assoc,
    Nat.add_sub_cancel_left]

end Text

namespace Selection

open Passage

section Patched

variable (source content : Text) {k : Passage} {ks : List Passage} {i : Nat}

theorem filter_start_eq_nil (h : ∀ k ∈ ks, k.start ≠ i) :
    (ks.map toSpan).filter (·.start == i) = [] := by
  simpa [toSpan] using h

theorem patched_before (h : ∀ k ∈ ks, i < k.start) :
    Text.patched source content (ks.map toSpan) (ks.map toSpan) i = source[i]?.toList := by
  have huncovered : (ks.map toSpan).any (Span.covers i) = false := by
    refine List.any_eq_false.mpr fun a ha => ?_
    obtain ⟨k, hk, rfl⟩ := List.mem_map.mp ha
    simp [toSpan, Span.covers, Nat.not_le.mpr (h k hk)]
  rw [Text.patched, filter_start_eq_nil fun k hk => (Nat.ne_of_lt (h k hk)).symm, huncovered]
  simp

theorem patched_start (hk : k.start < k.stop) (h : ∀ q ∈ ks, k.stop ≤ q.start) :
    Text.patched source content ((k :: ks).map toSpan) ((k :: ks).map toSpan) k.start = content := by
  have hlater : ∀ q ∈ ks, q.start ≠ k.start := fun q hq =>
    Nat.ne_of_gt (Nat.lt_of_lt_of_le hk (h q hq))
  rw [Text.patched, List.map_cons, List.filter_cons, filter_start_eq_nil hlater]
  simp [toSpan, Span.covers, hk]

theorem patched_inside (hstart : k.start < i) (hstop : i < k.stop) (h : ∀ q ∈ ks, k.stop ≤ q.start) :
    Text.patched source content ((k :: ks).map toSpan) ((k :: ks).map toSpan) i = [] := by
  have hlater : ∀ q ∈ k :: ks, q.start ≠ i := by
    intro q hq
    rcases List.mem_cons.mp hq with rfl | hq
    · exact Nat.ne_of_lt hstart
    · exact Nat.ne_of_gt (Nat.lt_of_lt_of_le hstop (h q hq))
  rw [Text.patched, filter_start_eq_nil hlater]
  simp [toSpan, Span.covers, Nat.le_of_lt hstart, hstop]

theorem flatMap_patched_own (hk : k.start < k.stop) (h : ∀ q ∈ ks, k.stop ≤ q.start) :
    (List.range' k.start (k.stop - k.start)).flatMap (Text.patched source content
      ((k :: ks).map toSpan) ((k :: ks).map toSpan)) = content := by
  obtain ⟨n, hn⟩ : ∃ n, k.stop - k.start = n + 1 := ⟨k.stop - k.start - 1, by omega⟩
  have hinside : (List.range' (k.start + 1) n).flatMap (Text.patched source content
      ((k :: ks).map toSpan) ((k :: ks).map toSpan)) = [] := by
    refine List.flatMap_eq_nil_iff.mpr fun i hi => ?_
    have hi := List.mem_range'_1.mp hi
    exact patched_inside source content (by omega) (by omega) h
  rw [hn, List.range'_succ, List.flatMap_cons, patched_start source content hk h, hinside,
    List.append_nil]

theorem patched_behind (hk : k.start < k.stop) (h : k.stop ≤ i) :
    Text.patched source content ((k :: ks).map toSpan) ((k :: ks).map toSpan) i =
      Text.patched source content (ks.map toSpan) (ks.map toSpan) i := by
  have hne : k.start ≠ i := Nat.ne_of_lt (Nat.lt_of_lt_of_le hk h)
  simp [Text.patched, toSpan, Span.covers, hne, Nat.not_lt.mpr h]

end Patched

theorem splice_eq_flatMap {source : Text} (content : Text) {cursor : Nat} {ks : List Passage}
    (hcursor : cursor ≤ source.length)
    (hks : ∀ k ∈ ks, cursor ≤ k.start ∧ k.start < k.stop ∧ k.stop ≤ source.length)
    (hrow : ks.Pairwise fun p q => p.stop ≤ q.start) :
    splice source content cursor ks = (List.range' cursor (source.length + 1 - cursor)).flatMap
      (Text.patched source content (ks.map toSpan) (ks.map toSpan)) := by
  induction ks generalizing cursor with
  | nil =>
    have hchars := Text.flatMap_getElem?_range' source cursor (source.length + 1 - cursor)
    rw [List.take_of_length_le (by rw [List.length_drop]; omega)] at hchars
    rw [splice, ← hchars]
    exact List.flatMap_congr fun i _ => (patched_before source content (by simp)).symm
  | cons k ks ih =>
    obtain ⟨hafter, hrow'⟩ := List.pairwise_cons.mp hrow
    obtain ⟨hle, hlt, hstop⟩ := hks k (by simp)
    have hks' : ∀ q ∈ ks, k.stop ≤ q.start ∧ q.start < q.stop ∧ q.stop ≤ source.length :=
      fun q hq => ⟨hafter q hq, (hks q (List.mem_cons_of_mem k hq)).2⟩
    -- the offsets before the passage, those inside of it, and those behind it
    have hbefore : (List.range' cursor (k.start - cursor)).flatMap (Text.patched source content
        ((k :: ks).map toSpan) ((k :: ks).map toSpan)) = (source.take k.start).drop cursor := by
      rw [List.drop_take, ← Text.flatMap_getElem?_range']
      refine List.flatMap_congr fun i hi => patched_before source content fun q hq => ?_
      have hi := List.mem_range'_1.mp hi
      rcases List.mem_cons.mp hq with rfl | hq
      · omega
      · have hq' := hafter q hq
        omega
    have hbehind : (List.range' k.stop (source.length + 1 - k.stop)).flatMap (Text.patched source
        content ((k :: ks).map toSpan) ((k :: ks).map toSpan)) = splice source content k.stop ks := by
      rw [ih hstop hks' hrow']
      refine List.flatMap_congr fun i hi => patched_behind source content hlt ?_
      exact (List.mem_range'_1.mp hi).1
    rw [← Text.range'_append_of_le hle (by omega : k.start ≤ source.length + 1),
      ← Text.range'_append_of_le (Nat.le_of_lt hlt) (by omega : k.stop ≤ source.length + 1),
      List.flatMap_append, List.flatMap_append, hbefore, hbehind,
      flatMap_patched_own source content hlt hafter, splice, List.append_assoc]

theorem length_splice {source : Text} (content : Text) {cursor : Nat} {ks : List Passage}
    (hcursor : cursor ≤ source.length)
    (hks : ∀ k ∈ ks, cursor ≤ k.start ∧ k.start < k.stop ∧ k.stop ≤ source.length)
    (hrow : ks.Pairwise fun p q => p.stop ≤ q.start) :
    (splice source content cursor ks).length + ((ks.map toSpan).map Span.size).sum =
      source.length - cursor + ks.length * content.length := by
  induction ks generalizing cursor with
  | nil => simp [splice]
  | cons k ks ih =>
    obtain ⟨hafter, hrow'⟩ := List.pairwise_cons.mp hrow
    obtain ⟨hle, hlt, hstop⟩ := hks k (by simp)
    have hrest := ih hstop
      (fun q hq => ⟨hafter q hq, (hks q (List.mem_cons_of_mem k hq)).2⟩) hrow'
    simp only [splice, List.length_append, List.length_drop, List.length_take, List.map_cons,
      List.sum_cons, List.length_cons, Nat.succ_mul, Span.size, toSpan] at hrest ⊢
    omega

end Selection

end Excerpt
