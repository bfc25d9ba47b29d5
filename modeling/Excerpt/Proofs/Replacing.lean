import Excerpt.Proofs.Rewriting
import Excerpt.Proofs.Tiling

/-!
Replacement of nested passages. Where each outermost passage comes before the others that start with
it, just the outermost passages are replaced, whatever else is selected inside of them.
-/

namespace Excerpt

namespace Selection

open Passage

section Kept

variable {edge : Nat} {ps : List Passage}

theorem outermost_sublist : (outermost edge ps).Sublist ps := by
  induction ps generalizing edge with
  | nil => exact List.nil_sublist _
  | cons p ps ih =>
    simp only [outermost]
    split
    · exact ih.cons p
    · exact ih.cons_cons p

theorem le_start_of_mem_outermost (hps : ∀ p ∈ ps, p.start < p.stop) {k : Passage}
    (hk : k ∈ outermost edge ps) : edge ≤ k.start := by
  induction ps generalizing edge with
  | nil => simp [outermost] at hk
  | cons p ps ih =>
    have hps' : ∀ q ∈ ps, q.start < q.stop := fun q hq => hps q (List.mem_cons_of_mem p hq)
    simp only [outermost] at hk
    split at hk
    · exact ih hps' hk
    · rcases List.mem_cons.mp hk with rfl | hk
      · omega
      · have hp := hps p (by simp)
        have hle := ih hps' hk
        omega

theorem apart_outermost (hps : ∀ p ∈ ps, p.start < p.stop) :
    (outermost edge ps).Pairwise fun p q => p.stop ≤ q.start := by
  induction ps generalizing edge with
  | nil => exact List.Pairwise.nil
  | cons p ps ih =>
    have hps' : ∀ q ∈ ps, q.start < q.stop := fun q hq => hps q (List.mem_cons_of_mem p hq)
    simp only [outermost]
    split
    · exact ih hps'
    · exact List.pairwise_cons.mpr ⟨fun q hq => le_start_of_mem_outermost hps' hq, ih hps'⟩

/-- A kept passage is the first one that starts where it does. -/
theorem find?_of_mem_outermost (hps : ∀ p ∈ ps, p.start < p.stop) {k : Passage}
    (hk : k ∈ outermost edge ps) : ps.find? (·.start == k.start) = some k := by
  have hle := le_start_of_mem_outermost hps hk
  induction ps generalizing edge with
  | nil => simp [outermost] at hk
  | cons p ps ih =>
    have hps' : ∀ q ∈ ps, q.start < q.stop := fun q hq => hps q (List.mem_cons_of_mem p hq)
    have hskip (hne : p.start ≠ k.start) {edge : Nat} (hk : k ∈ outermost edge ps) :
        (p :: ps).find? (·.start == k.start) = some k := by
      rw [List.find?_cons_of_neg (by simpa using hne)]
      exact ih hps' hk (le_start_of_mem_outermost hps' hk)
    simp only [outermost] at hk
    split at hk
    · exact hskip (by omega) hk
    · rcases List.mem_cons.mp hk with rfl | hk
      · simp
      · have hp := hps p (by simp)
        have hle' := le_start_of_mem_outermost hps' hk
        exact hskip (by omega) hk

/-- Each passage starts in a kept one, if the passages come in their order. -/
theorem exists_mem_outermost (horder : InOrder ps) {p : Passage} (hp : p ∈ ps)
    (hps : ∀ q ∈ ps, q.start < q.stop) (hedge : edge ≤ p.start) :
    ∃ k ∈ outermost edge ps, k.start ≤ p.start ∧ p.start < k.stop := by
  induction ps generalizing edge with
  | nil => simp at hp
  | cons q ps ih =>
    obtain ⟨hafter, horder'⟩ := List.pairwise_cons.mp horder
    have hps' : ∀ r ∈ ps, r.start < r.stop := fun r hr => hps r (List.mem_cons_of_mem q hr)
    have hq := hps q (by simp)
    simp only [outermost]
    rcases List.mem_cons.mp hp with rfl | hp
    · rw [if_neg (Nat.not_lt.mpr hedge)]
      exact ⟨p, by simp, Nat.le_refl _, hq⟩
    · have hle : q.start ≤ p.start := hafter p hp
      split
      · exact ih horder' hp hps' hedge
      · by_cases hinside : p.start < q.stop
        · exact ⟨q, by simp, hle, hinside⟩
        · obtain ⟨k, hk, hin⟩ := ih horder' hp hps' (Nat.le_of_not_lt hinside)
          exact ⟨k, List.mem_cons_of_mem q hk, hin⟩

end Kept

section Sorted

theorem start_le_trans (p q r : Passage) (hpq : decide (p.start ≤ q.start) = true)
    (hqr : decide (q.start ≤ r.start) = true) : decide (p.start ≤ r.start) = true := by
  simp only [decide_eq_true_eq] at *
  exact hpq.trans hqr

theorem start_le_total (p q : Passage) :
    (decide (p.start ≤ q.start) || decide (q.start ≤ p.start)) = true := by
  simpa using Nat.le_total p.start q.start

theorem inOrder_inOrder (ps : List Passage) : InOrder (inOrder ps) :=
  (List.pairwise_mergeSort start_le_trans start_le_total ps).imp of_decide_eq_true

theorem mem_inOrder {ps : List Passage} {p : Passage} : p ∈ inOrder ps ↔ p ∈ ps :=
  List.mem_mergeSort

/-- Sorting leaves the passages that start together in their order. -/
theorem find?_inOrder (ps : List Passage) (n : Nat) :
    (inOrder ps).find? (·.start == n) = ps.find? (·.start == n) := by
  have htogether : (ps.filter (·.start == n)).Pairwise
      fun p q => decide (p.start ≤ q.start) = true := by
    refine List.pairwise_of_forall_mem_list fun p hp q hq => ?_
    have hp' : p.start = n := by simpa using (List.mem_filter.mp hp).2
    have hq' : q.start = n := by simpa using (List.mem_filter.mp hq).2
    simp [hp', hq']
  have hsub : (ps.filter (·.start == n)).Sublist (inOrder ps) :=
    List.sublist_mergeSort start_le_trans start_le_total htogether List.filter_sublist
  have hfilter : ps.filter (·.start == n) = (inOrder ps).filter (·.start == n) := by
    have hsub' := hsub.filter (·.start == n)
    simp only [List.filter_filter, Bool.and_self] at hsub'
    exact hsub'.eq_of_length ((List.mergeSort_perm ps _).filter _).length_eq.symm
  rw [← List.head?_filter, ← List.head?_filter, hfilter]

theorem replaced_of_inOrder {s : Selection} (h : InOrder s.passages) :
    s.replaced = outermost 0 s.passages := by
  rw [replaced, inOrder, List.mergeSort_of_pairwise (h.imp decide_eq_true)]

end Sorted

/-- Passages that lie in the document and are not empty, nested or disjoint. -/
structure Nests (s : Selection) : Prop where
  start_lt_stop : ∀ p ∈ s.passages, p.start < p.stop
  stop_le : ∀ p ∈ s.passages, p.stop ≤ s.source.length
  nested : Span.Nested (s.passages.map toSpan)

theorem mem_of_mem_replaced {s : Selection} {k : Passage} (hk : k ∈ s.replaced) :
    k ∈ s.passages :=
  mem_inOrder.mp (outermost_sublist.subset hk)

section Replaced

variable {s : Selection} (hs : s.Nests)
include hs

theorem start_lt_stop_of_mem_inOrder : ∀ p ∈ inOrder s.passages, p.start < p.stop :=
  fun p hp => hs.start_lt_stop p (mem_inOrder.mp hp)

theorem apart_replaced : s.replaced.Pairwise fun p q => p.stop ≤ q.start :=
  apart_outermost (start_lt_stop_of_mem_inOrder hs)

theorem find?_of_mem_replaced {k : Passage} (hk : k ∈ s.replaced) :
    s.passages.find? (·.start == k.start) = some k := by
  rw [← find?_inOrder]
  exact find?_of_mem_outermost (start_lt_stop_of_mem_inOrder hs) hk

/-- Some passage is replaced that starts where an outermost one does, and it lies in that one. -/
theorem exists_leader {a : Span} (ha : a ∈ Span.maximal (s.passages.map toSpan)) :
    ∃ k ∈ s.replaced, k.start = a.start ∧ k.toSpan ≤ a := by
  obtain ⟨hmem, hmax⟩ := Span.mem_maximal.mp ha
  obtain ⟨p, hp, rfl⟩ := List.mem_map.mp hmem
  obtain ⟨k, hk, hle, hlt⟩ := exists_mem_outermost (inOrder_inOrder _) (mem_inOrder.mpr hp)
    (start_lt_stop_of_mem_inOrder hs) (Nat.zero_le _)
  have hkmem : k.toSpan ∈ s.passages.map toSpan := List.mem_map_of_mem (mem_of_mem_replaced hk)
  have hpos := hs.start_lt_stop p hp
  refine ⟨k, hk, ?_⟩
  rcases hs.nested _ hkmem _ hmem with h | h | h
  · exact ⟨Nat.le_antisymm hle h.1, h⟩
  · have heq := hmax _ hkmem h
    exact ⟨(Span.mk.inj heq).1.symm, heq ▸ le_refl _⟩
  · simp only [Span.Apart, toSpan] at h
    omega

/-- The outermost passages are replaced if and only if each of them comes first among those that start
with it. -/
theorem led_iff_subset_replaced : Span.Led (s.passages.map toSpan) ↔
    Span.maximal (s.passages.map toSpan) ⊆ s.replaced.map toSpan := by
  have hfirst {k : Passage} (hk : k ∈ s.replaced) :
      (s.passages.map toSpan).find? (·.start == k.start) = some k.toSpan := by
    have hmap : (s.passages.map toSpan).find? (·.start == k.start) =
        (s.passages.find? (·.start == k.start)).map toSpan := List.find?_map
    rw [hmap, find?_of_mem_replaced hs hk, Option.map_some]
  constructor
  · intro hled a ha
    obtain ⟨k, hk, hstart, -⟩ := exists_leader hs ha
    have hka := hfirst hk
    rw [hstart, hled a ha] at hka
    exact Option.some.inj hka ▸ List.mem_map_of_mem hk
  · intro hsub a ha
    obtain ⟨k, hk, rfl⟩ := List.mem_map.mp (hsub ha)
    exact hfirst hk

theorem replaced_subset_maximal (hled : Span.Led (s.passages.map toSpan)) :
    s.replaced.map toSpan ⊆ Span.maximal (s.passages.map toSpan) := by
  intro a ha
  obtain ⟨k, hk, rfl⟩ := List.mem_map.mp ha
  have hk' := mem_of_mem_replaced hk
  -- a replaced passage lies in an outermost one, which is replaced as well
  obtain ⟨b, hb, hle⟩ := Span.exists_le_maximal (List.mem_map_of_mem hk')
  obtain ⟨q, hq, rfl⟩ := List.mem_map.mp ((led_iff_subset_replaced hs).mp hled hb)
  have hlt := hs.start_lt_stop k hk'
  rcases eq_or_apart (apart_replaced hs) hk hq with rfl | hapart
  · exact hb
  · simp only [Span.le_def, Span.Apart, toSpan] at hle hapart
    omega

theorem nodup_start_replaced : ((s.replaced.map toSpan).map Span.start).Nodup := by
  refine List.pairwise_map.mpr (List.pairwise_map.mpr ?_)
  refine (apart_replaced hs).imp_of_mem fun {p q} hp _ hpq heq => ?_
  have hlt := hs.start_lt_stop p (mem_of_mem_replaced hp)
  simp only [toSpan] at heq
  omega

theorem bounds_of_mem_replaced : ∀ k ∈ s.replaced,
    0 ≤ k.start ∧ k.start < k.stop ∧ k.stop ≤ s.source.length :=
  fun k hk => ⟨Nat.zero_le _, hs.start_lt_stop k (mem_of_mem_replaced hk),
    hs.stop_le k (mem_of_mem_replaced hk)⟩

theorem replace_eq_flatMap (content : Text) :
    s.replace content = (List.range (s.source.length + 1)).flatMap
      (s.source.patched content (s.replaced.map toSpan) (s.replaced.map toSpan)) := by
  rw [replace, splice_eq_flatMap content (Nat.zero_le _) (bounds_of_mem_replaced hs)
    (apart_replaced hs), List.range_eq_range', Nat.sub_zero]

theorem length_replace (content : Text) :
    (s.replace content).length + ((s.replaced.map toSpan).map Span.size).sum =
      s.source.length + s.replaced.length * content.length := by
  rw [replace, length_splice content (Nat.zero_le _) (bounds_of_mem_replaced hs)
    (apart_replaced hs), Nat.sub_zero]

theorem perm_maximal (hled : Span.Led (s.passages.map toSpan)) :
    (s.replaced.map toSpan).Perm (Span.maximal (s.passages.map toSpan)) :=
  (List.perm_ext_iff_of_nodup (nodup_start_replaced hs).of_map (Span.nodup_maximal _)).mpr fun _ =>
    ⟨fun ha => replaced_subset_maximal hs hled ha, fun ha => (led_iff_subset_replaced hs).mp hled ha⟩

theorem replace_eq_rewritten (hled : Span.Led (s.passages.map toSpan)) (content : Text) :
    s.replace content = s.source.rewritten content (s.passages.map toSpan) := by
  have hperm := perm_maximal hs hled
  have hcovers (i : Nat) : (s.replaced.map toSpan).any (Span.covers i) =
      (s.passages.map toSpan).any (Span.covers i) := by
    refine Span.any_covers_eq_of_le (fun a ha => ?_) (fun b hb => ?_) i
    · exact ⟨a, (Span.mem_maximal.mp (hperm.subset ha)).1, le_refl a⟩
    · obtain ⟨a, ha, hle⟩ := Span.exists_le_maximal hb
      exact ⟨a, hperm.symm.subset ha, hle⟩
  rw [replace_eq_flatMap hs, Text.rewritten]
  exact List.flatMap_congr fun i _ => Text.patched_congr s.source content hperm (hcovers i)

/-- Where two selections have the same outermost passages and replacement comes to the same, so does
the choice of what is replaced: a text of no characters and one of a single character tell how much of
the document is replaced and in how many places. -/
theorem led_of_replace_eq {t : Selection} (ht : t.Nests) (hsource : s.source = t.source)
    (hmax : (Span.maximal (s.passages.map toSpan)).Perm (Span.maximal (t.passages.map toSpan)))
    (hled : Span.Led (s.passages.map toSpan)) (heq : ∀ content, s.replace content = t.replace content) :
    Span.Led (t.passages.map toSpan) := by
  have hperm := (perm_maximal hs hled).trans hmax
  have hpos : ∀ a ∈ s.replaced.map toSpan, a.start < a.stop := by
    intro a ha
    obtain ⟨k, hk, rfl⟩ := List.mem_map.mp ha
    exact hs.start_lt_stop k (mem_of_mem_replaced hk)
  have hlead : ∀ a ∈ s.replaced.map toSpan,
      ∃ b ∈ t.replaced.map toSpan, b.start = a.start ∧ b ≤ a := by
    intro a ha
    obtain ⟨k, hk, hka⟩ := exists_leader ht (hperm.subset ha)
    exact ⟨k.toSpan, List.mem_map_of_mem hk, hka⟩
  have hnone := congrArg List.length (heq [])
  have hone := congrArg List.length (heq [' '])
  have hsnone := length_replace hs []
  have htnone := length_replace ht []
  have hsone := length_replace hs [' ']
  have htone := length_replace ht [' ']
  rw [hsource] at hsnone hsone
  simp only [List.length_nil, List.length_cons, Nat.mul_zero] at hsnone htnone hsone htone
  have hleaders := Span.perm_of_leaders hpos (nodup_start_replaced hs) hlead
    (by simp only [List.length_map]; omega) (by omega)
  exact (led_iff_subset_replaced ht).mpr (hmax.symm.trans
    ((perm_maximal hs hled).symm.trans hleaders)).subset

end Replaced

/-- What a single query finds in a document is not empty and lies in the document. -/
theorem bounds_of_mem_query {source : Text} {ss : List Segment} {p : Passage}
    (hp : p ∈ ((ofText source).query ss).passages) : p.start < p.stop ∧ p.stop ≤ source.length := by
  have hstands : Stands source p := by
    rw [passages_ofText] at hp
    exact Segment.stands_of_mem_resolve (fun _ hq => isPlain_of_mem_index hq) hp
  refine ⟨?_, hstands.stop_le⟩
  rcases among_of_mem_query hp with (h | h) | h
  · exact start_lt_stop_of_mem_index h
  · exact start_lt_stop_of_mem_items h
  · exact h.start_lt_stop

theorem nests_of_queries {source : Text} {ps : List Passage}
    (hps : ∀ p ∈ ps, ∃ ss, p ∈ ((ofText source).query ss).passages)
    (hnested : Span.Nested (ps.map toSpan)) : (Selection.mk source ps).Nests where
  start_lt_stop p hp := by
    obtain ⟨ss, hp⟩ := hps p hp
    exact (bounds_of_mem_query hp).1
  stop_le p hp := by
    obtain ⟨ss, hp⟩ := hps p hp
    exact (bounds_of_mem_query hp).2
  nested := hnested

theorem fits_of_scopesFirst {source : Text} {ss : List Segment} (hss : Segment.ScopesFirst ss)
    {p q : Passage} (hp : p ∈ ((ofText source).query ss).passages)
    (hq : q ∈ ((ofText source).query ss).passages) :
    p.toSpan.Fits q.toSpan ∧ (p.start = q.start → p = q) := by
  rw [passages_ofText] at hp hq
  rcases Segment.resolve_of_scopesFirst hss source with h | h | h
  · exact ⟨(h p hp).fits (h q hq), (h p hp).eq_of_start_eq (h q hq)⟩
  · exact fits_of_mem_index (h hp) (h hq)
  · exact fits_of_apart apart_items_index (fun _ hr => start_lt_stop_of_mem_items hr) (h hp) (h hq)

/-- Replacing what a selector finds whose scope segments come first puts `content` once for each
outermost passage, and keeps all that stands in none. -/
theorem replace_query_eq_rewritten {source : Text} {ss : List Segment}
    (hss : Segment.ScopesFirst ss) (content : Text) :
    ((ofText source).query ss).replace content =
      source.rewritten content (((ofText source).query ss).passages.map toSpan) := by
  have hfits : ∀ a ∈ ((ofText source).query ss).passages.map toSpan,
      ∀ b ∈ ((ofText source).query ss).passages.map toSpan,
        a.Fits b ∧ (a.start = b.start → a = b) := by
    intro a ha b hb
    obtain ⟨p, hp, rfl⟩ := List.mem_map.mp ha
    obtain ⟨q, hq, rfl⟩ := List.mem_map.mp hb
    obtain ⟨hpq, heq⟩ := fits_of_scopesFirst hss hp hq
    exact ⟨hpq, fun hstart => congrArg toSpan (heq hstart)⟩
  have hnests : ((ofText source).query ss).Nests :=
    nests_of_queries (fun p hp => ⟨ss, hp⟩) fun a ha b hb => (hfits a ha b hb).1
  exact replace_eq_rewritten hnests
    (Span.led_of_start_injective fun a ha b hb => (hfits a ha b hb).2) content

theorem replace_query_eq_rewritten_nested :
    let scope : Segment := ⟨"section".toList, some (.scope none), none, none⟩
    let source := "x\n# A\n### B\ny\n## C\n# D\n".toList
    let s := (ofText source).query [scope, scope]
    let content := "z\n".toList
    Segment.ScopesFirst [scope, scope] ∧
      s.replace content = Text.rewritten source content (s.passages.map toSpan) ∧
      Text.rewritten source content (s.passages.map toSpan) = "x\n# A\nz\nz\n# D\n".toList := by
  intro scope source s content
  have hfirst : Segment.ScopesFirst [scope, scope] := by decide
  exact ⟨hfirst, replace_query_eq_rewritten hfirst content, by decide +kernel⟩

/-- Two selections that cover the same: each passage of the one lies in a passage of the other. If in
the first of them each outermost passage comes before the others that start with it, replacement comes
to the same for both, whatever the content, if and only if this is so in the second. -/
theorem replace_eq_iff_led {source : Text} {ps qs : List Passage}
    (hps : ∀ p ∈ ps, ∃ ss, p ∈ ((ofText source).query ss).passages)
    (hqs : ∀ q ∈ qs, ∃ ss, q ∈ ((ofText source).query ss).passages)
    (hpsnested : Span.Nested (ps.map toSpan)) (hqsnested : Span.Nested (qs.map toSpan))
    (hle : ∀ p ∈ ps, ∃ q ∈ qs, p.toSpan ≤ q.toSpan) (hge : ∀ q ∈ qs, ∃ p ∈ ps, q.toSpan ≤ p.toSpan)
    (hled : Span.Led (ps.map toSpan)) :
    (∀ content, (Selection.mk source ps).replace content = (Selection.mk source qs).replace content) ↔
      Span.Led (qs.map toSpan) := by
  have hpsnests := nests_of_queries hps hpsnested
  have hqsnests := nests_of_queries hqs hqsnested
  have hin {as bs : List Passage} (h : ∀ p ∈ as, ∃ q ∈ bs, p.toSpan ≤ q.toSpan) :
      ∀ a ∈ as.map toSpan, ∃ b ∈ bs.map toSpan, a ≤ b := by simpa using h
  constructor
  · exact led_of_replace_eq hpsnests hqsnests rfl (Span.maximal_perm_of_le (hin hle) (hin hge)) hled
  · intro hled' content
    rw [replace_eq_rewritten hpsnests hled, replace_eq_rewritten hqsnests hled']
    exact Text.rewritten_congr source content (hin hle) (hin hge)

theorem replace_eq_iff_led_appended :
    let scope : Segment := ⟨"section".toList, some (.scope none), none, none⟩
    let heading : Segment := ⟨"heading".toList, some (.heading none), none, none⟩
    let source := "# A\nx\n".toList
    let ps := ((ofText source).query [scope]).passages
    let qs := ps ++ ((ofText source).query [heading]).passages
    Span.Nested (ps.map toSpan) ∧ Span.Nested (qs.map toSpan) ∧
      Span.Led (ps.map toSpan) ∧ Span.Led (qs.map toSpan) ∧ ps.map toSpan ≠ qs.map toSpan ∧
      ∀ content,
        (Selection.mk source ps).replace content = (Selection.mk source qs).replace content := by
  intro scope heading source ps qs
  have hps : ∀ p ∈ ps, ∃ ss, p ∈ ((ofText source).query ss).passages := fun p hp => ⟨[scope], hp⟩
  have hqs : ∀ q ∈ qs, ∃ ss, q ∈ ((ofText source).query ss).passages := fun q hq =>
    (List.mem_append.mp hq).elim (fun hq => ⟨[scope], hq⟩) fun hq => ⟨[heading], hq⟩
  have hpsnested : Span.Nested (ps.map toSpan) := by decide +kernel
  have hqsnested : Span.Nested (qs.map toSpan) := by decide +kernel
  have hpsled : Span.Led (ps.map toSpan) := by decide +kernel
  have hqsled : Span.Led (qs.map toSpan) := by decide +kernel
  have hle : ∀ p ∈ ps, ∃ q ∈ qs, p.toSpan ≤ q.toSpan := fun p hp =>
    ⟨p, List.mem_append_left _ hp, le_refl _⟩
  have hge : ∀ q ∈ qs, ∃ p ∈ ps, q.toSpan ≤ p.toSpan := by
    have hspans : ∀ b ∈ qs.map toSpan, ∃ a ∈ ps.map toSpan, b ≤ a := by decide +kernel
    simpa using hspans
  exact ⟨hpsnested, hqsnested, hpsled, hqsled, by decide +kernel,
    (replace_eq_iff_led hps hqs hpsnested hqsnested hle hge hpsled).mpr hqsled⟩

/-- A heading that comes before its section in a selection is replaced alone. -/
theorem exists_perm_replace_ne :
    let scope : Segment := ⟨"section".toList, some (.scope none), none, none⟩
    let heading : Segment := ⟨"heading".toList, some (.heading none), none, none⟩
    let source := "# A\nx\n".toList
    let ps := ((ofText source).query [scope]).passages
    let qs := ((ofText source).query [heading]).passages
    let content := "z\n".toList
    (qs ++ ps).Perm (ps ++ qs) ∧ Span.Nested ((ps ++ qs).map toSpan) ∧
      (Selection.mk source (ps ++ qs)).replace content = "z\n".toList ∧
      (Selection.mk source (qs ++ ps)).replace content = "z\nx\n".toList := by
  intro scope heading source ps qs content
  have hsection : InOrder (ps ++ qs) := by decide +kernel
  have hheading : InOrder (qs ++ ps) := by decide +kernel
  refine ⟨List.perm_append_comm, by decide +kernel, ?_, ?_⟩
  · rw [replace, replaced_of_inOrder hsection]
    decide +kernel
  · rw [replace, replaced_of_inOrder hheading]
    decide +kernel

end Selection

end Excerpt
