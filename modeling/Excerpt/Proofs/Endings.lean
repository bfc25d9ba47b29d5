import Excerpt.Proofs.Bodies
import Excerpt.Proofs.Shift
import Excerpt.Selection.Record
import Mathlib.Data.List.Forall2

/-!
Two documents that differ in their line endings only. They have the same blocks but for the raw texts,
and each selector finds the same lines in both.
-/

namespace Excerpt

namespace Token

open Line

/-- Blocks of the lines `xs` beside blocks of the lines `ys` that differ from them in raw texts only.
Each block takes as many lines as the one beside it, and so do its items. -/
inductive Parallel : List Token → List Line → List Token → List Line → Prop
  | nil (xs ys : List Line) : Parallel [] xs [] ys
  | cons {t u : Token} {ts us : List Token} {own own' xs ys : List Line}
      (hbare : t.bare = u.bare) (ht : t.raw = joined own) (hu : u.raw = joined own')
      (hlength : own.length = own'.length) (hitems : Parallel t.items own u.items own')
      (hrest : Parallel ts xs us ys) : Parallel (t :: ts) (own ++ xs) (u :: us) (own' ++ ys)

theorem parallel_ofItem {os os' : List (Line × List Line)}
    (h : os.map (Prod.map Line.bare (List.map Line.bare)) =
      os'.map (Prod.map Line.bare (List.map Line.bare))) (xs ys : List Line) :
    Parallel (os.map fun o => ofItem o.1 o.2) (os.flatMap (fun o => o.1 :: o.2) ++ xs)
      (os'.map fun o => ofItem o.1 o.2) (os'.flatMap (fun o => o.1 :: o.2) ++ ys) := by
  induction os generalizing os' with
  | nil =>
    obtain rfl : os' = [] := by simpa using h.symm
    exact .nil xs ys
  | cons o os ih =>
    obtain ⟨o', os', rfl⟩ := List.exists_cons_of_ne_nil (l := os') (by rintro rfl; simp at h)
    obtain ⟨l, ls⟩ := o
    obtain ⟨m, ms⟩ := o'
    simp only [List.map_cons, Prod.map_apply, List.cons.injEq, Prod.mk.injEq] at h
    obtain ⟨⟨hl, hls⟩, hos⟩ := h
    have hcontent : (ofItem l ls).content = (ofItem m ms).content := by
      rw [← content_ofItem_bare, hl, hls, content_ofItem_bare]
    have hlength := congrArg List.length hls
    simp only [List.map_cons, List.flatMap_cons, List.append_assoc]
    refine .cons (bare_eq_of_content hcontent) rfl rfl (by simpa using hlength) ?_ (ih hos)
    exact .nil _ _

theorem parallel_items {l m : Line} {ls ms : List Line} (hl : l.bare = m.bare)
    (h : ls.map Line.bare = ms.map Line.bare) :
    Parallel (first l ls).items (l :: ls.take (reach l ls))
      (first m ms).items (m :: ms.take (reach m ms)) := by
  have hread : Opening.read l ls = Opening.read m ms := by
    rw [← Opening.read_bare, hl, h, Opening.read_bare]
  have hreach : reach l ls = reach m ms := by rw [← reach_bare, hl, h, reach_bare]
  rw [items_first, items_first, hread, hreach]
  have hparts : ((Opening.read m ms).parts l (ls.take (reach m ms))).map
        (Prod.map Line.bare (List.map Line.bare)) =
      ((Opening.read m ms).parts m (ms.take (reach m ms))).map
        (Prod.map Line.bare (List.map Line.bare)) := by
    rw [← Opening.parts_bare, ← Opening.parts_bare, hl, List.map_take, List.map_take, h]
  obtain ⟨xs, hxs⟩ := Opening.flatMap_parts_prefix l (ls.take (reach m ms)) (Opening.read m ms)
  obtain ⟨ys, hys⟩ := Opening.flatMap_parts_prefix m (ms.take (reach m ms)) (Opening.read m ms)
  rw [← hxs, ← hys]
  exact parallel_ofItem hparts xs ys

/-- A run on some lines is matched by a run on lines with the same bodies. -/
theorem Reads.parallel {ls rest : List Line} {ts : List Token} (h : Reads ls ts rest)
    {ms : List Line} (hms : ls.map Line.bare = ms.map Line.bare) :
    ∃ us rest', Reads ms us rest' ∧ rest.map Line.bare = rest'.map Line.bare ∧
      Parallel ts ls us ms := by
  induction h generalizing ms with
  | done ls => exact ⟨[], ms, .done ms, hms, .nil ls ms⟩
  | @step l ls ts rest _ ih =>
    cases ms with
    | nil => simp at hms
    | cons m ms =>
      obtain ⟨hl, hls⟩ : l.bare = m.bare ∧ ls.map Line.bare = ms.map Line.bare := by simpa using hms
      have hreach : reach l ls = reach m ms := by rw [← reach_bare, hl, hls, reach_bare]
      have hbare : (first l ls).bare = (first m ms).bare := by
        rw [← bare_first, hl, hls, bare_first]
      have hlength : ls.length = ms.length := by simpa using congrArg List.length hls
      have hdrop : (ls.drop (reach l ls)).map Line.bare = (ms.drop (reach m ms)).map Line.bare := by
        rw [List.map_drop, List.map_drop, hls, hreach]
      obtain ⟨us, rest', hreads, hrest, hparallel⟩ := ih hdrop
      refine ⟨first m ms :: us, rest', .step hreads, hrest, ?_⟩
      have hall := Parallel.cons hbare (raw_first l ls) (raw_first m ms)
        (by simp [hreach, hlength]) (parallel_items hl hls) hparallel
      simpa only [List.cons_append, List.take_append_drop] using hall

theorem parallel_blocks {ls ms : List Line} (h : ls.map Line.bare = ms.map Line.bare) :
    Parallel (blocks ls) ls (blocks ms) ms := by
  obtain ⟨us, rest, hreads, hrest, hparallel⟩ := (reads_nil_iff.mpr rfl).parallel h
  obtain rfl : rest = [] := by simpa using hrest.symm
  rwa [reads_nil_iff.mp hreads]

theorem Parallel.map_bare {ts us : List Token} {xs ys : List Line} (h : Parallel ts xs us ys) :
    ts.map bare = us.map bare := by
  induction h with
  | nil => rfl
  | cons hbare _ _ _ _ _ _ ih => rw [List.map_cons, List.map_cons, hbare, ih]

theorem Parallel.raws_prefix {ts us : List Token} {xs ys : List Line} (h : Parallel ts xs us ys) :
    ts.flatMap raw <+: joined xs ∧ us.flatMap raw <+: joined ys := by
  induction h with
  | nil => exact ⟨List.nil_prefix, List.nil_prefix⟩
  | cons _ ht hu _ _ _ _ ih =>
    simp only [List.flatMap_cons, joined_append, ht, hu, List.prefix_append_right_inj]
    exact ih

end Token

namespace Text

/-- Where a line starts, by its number. -/
def lineStart (t : Text) (k : Nat) : Nat := (Line.joined ((lines t).take k)).length

theorem lineStart_succ {t : Text} {k : Nat} (hk : k < (lines t).length) :
    t.lineStart k < t.lineStart (k + 1) := by
  have hline : (lines t)[k].toText ≠ [] := Line.toText_ne_nil ((lines_areCut t).1 _ (by simp))
  rw [lineStart, lineStart, List.take_succ_eq_append_getElem hk, Line.joined_append]
  simpa [Line.joined] using List.length_pos_iff.mpr hline

theorem lineStart_le_of_le {t : Text} {i j : Nat} (h : i ≤ j) : t.lineStart i ≤ t.lineStart j := by
  obtain ⟨rest, hrest⟩ : (lines t).take i <+: (lines t).take j := List.take_prefix_take_left h
  rw [lineStart, lineStart, ← hrest, Line.joined_append, List.length_append]
  exact Nat.le_add_right _ _

theorem lineStart_lt_iff {t : Text} {k : Nat} (hk : k < (lines t).length) (j : Nat) :
    t.lineStart k < t.lineStart j ↔ k < j := by
  constructor
  · intro h
    by_contra hj
    exact Nat.not_lt.mpr (lineStart_le_of_le (Nat.le_of_not_lt hj)) h
  · intro h
    exact Nat.lt_of_lt_of_le (lineStart_succ hk) (lineStart_le_of_le h)

theorem lt_lineStart_succ_iff {t : Text} {k : Nat} (hk : k < (lines t).length) (i : Nat) :
    t.lineStart i < t.lineStart (k + 1) ↔ i ≤ k := by
  constructor
  · intro h
    by_contra hi
    exact Nat.not_lt.mpr (lineStart_le_of_le (Nat.lt_of_not_le hi)) h
  · intro h
    exact Nat.lt_of_le_of_lt (lineStart_le_of_le h) (lineStart_succ hk)

theorem before?_of_prefix {part t : Text} (h : part <+: t) : before? part t = some 0 := by
  cases t with
  | nil => simp [before?, List.prefix_nil.mp h]
  | cons c r => simp [before?, List.isPrefixOf_iff_prefix.mpr h]

end Text

theorem forall₂_takeWhile {α β : Type} {R : α → β → Prop} {f : α → Bool} {g : β → Bool}
    (hfg : ∀ x y, R x y → f x = g y) {xs : List α} {ys : List β} (h : List.Forall₂ R xs ys) :
    List.Forall₂ R (xs.takeWhile f) (ys.takeWhile g) := by
  induction h with
  | nil => exact .nil
  | @cons x y xs ys hxy _ ih =>
    rw [List.takeWhile_cons, List.takeWhile_cons, hfg x y hxy]
    split
    · exact .cons hxy ih
    · exact .nil

theorem Position.forall₂_pick? {α β : Type} {R : α → β → Prop} {xs : List α} {ys : List β}
    (h : List.Forall₂ R xs ys) (p : Option Position) :
    List.Forall₂ R (pick? p xs) (pick? p ys) := by
  cases p with
  | none => exact h
  | some p =>
    cases p with
    | slice start stop =>
      simp only [pick?, pick, h.length_eq]
      exact List.forall₂_drop _ (List.forall₂_take _ h)
    | index i =>
      have hpick {γ : Type} (zs : List γ) (j : Nat) : zs[j]?.toList = (zs.drop j).take 1 := by
        rw [List.take_one, List.head?_drop]
      simp only [pick?, pick, h.length_eq, hpick]
      generalize (if i < 0 then i + ys.length else i) = j
      split
      · exact List.forall₂_take _ (List.forall₂_drop _ h)
      · exact .nil

namespace Passage

open Token

theorem placeItems_of_leads {start : Nat} {rest : Text} {ts : List Token}
    (h : ts.flatMap raw <+: rest) : placeItems start rest ts = consecutive start ts := by
  induction ts generalizing start rest with
  | nil => rfl
  | cons t ts ih =>
    obtain ⟨r, rfl⟩ := h
    rw [List.flatMap_cons, List.append_assoc]
    simp only [placeItems, Text.before?_of_prefix (List.prefix_append _ _), Nat.add_zero, Nat.zero_add,
      List.drop_left, ih (List.prefix_append _ _)]
    rfl

/-- The numbers of the lines from which a passage has some text. -/
def lineNumbers (source : Text) (p : Passage) : List Nat :=
  (List.range (Text.lines source).length).filter fun k =>
    p.start < source.lineStart (k + 1) && source.lineStart k < p.stop

/-- Two offsets, each where the line of one number starts. -/
def AtSameLine (s t : Text) (i j : Nat) : Prop := ∃ k, i = s.lineStart k ∧ j = t.lineStart k

/-- A passage of `s` and a passage of `t` from the same lines, whose tokens differ in raw texts only. -/
inductive Twin (s t : Text) : Passage → Passage → Prop
  | intro {p q : Passage} (hbare : p.token.bare = q.token.bare)
      (hstart : AtSameLine s t p.start q.start) (hstop : AtSameLine s t p.stop q.stop)
      (hitems : List.Forall₂ (Twin s t) (items [p]) (items [q]))
      (hinner : List.Forall₂ (Twin s t) p.innerList q.innerList) : Twin s t p q

section Twin

variable {s t : Text}

theorem atSameLine_of_prefix {pre pre' : List Line} (hs : pre <+: Text.lines s)
    (ht : pre' <+: Text.lines t) (hlength : pre.length = pre'.length) :
    AtSameLine s t (Line.joined pre).length (Line.joined pre').length := by
  refine ⟨pre.length, ?_, ?_⟩
  · rw [Text.lineStart, ← List.prefix_iff_eq_take.mp hs]
  · rw [Text.lineStart, hlength, ← List.prefix_iff_eq_take.mp ht]

theorem twins_of_parallel {ts us : List Token} {xs ys : List Line} (h : Parallel ts xs us ys)
    {pre pre' : List Line} (hs : pre ++ xs <+: Text.lines s) (ht : pre' ++ ys <+: Text.lines t)
    (hpre : pre.length = pre'.length) :
    List.Forall₂ (Twin s t) (consecutive (Line.joined pre).length ts)
      (consecutive (Line.joined pre').length us) := by
  induction h generalizing pre pre' with
  | nil => exact .nil
  | @cons v w vs ws own own' xs ys hbare hraw hraw' hlength hitems _ ihitems ihrest =>
    rw [← List.append_assoc] at hs ht
    have hs' : pre ++ own <+: Text.lines s := (List.prefix_append _ _).trans hs
    have ht' : pre' ++ own' <+: Text.lines t := (List.prefix_append _ _).trans ht
    have hown : (pre ++ own).length = (pre' ++ own').length := by simp [hpre, hlength]
    have hstart := atSameLine_of_prefix ((List.prefix_append _ _).trans hs')
      ((List.prefix_append _ _).trans ht') hpre
    have hstop := atSameLine_of_prefix hs' ht' hown
    have hrest := ihrest hs ht hown
    simp only [Line.joined_append, List.length_append, ← hraw, ← hraw'] at hstop hrest
    refine .cons (.intro hbare hstart hstop ?_ .nil) hrest
    -- the items stand in the raw text without gaps, so each is found where the one before it ends
    obtain ⟨hraws, hraws'⟩ := hitems.raws_prefix
    rw [← hraw] at hraws
    rw [← hraw'] at hraws'
    simp only [items, List.flatMap_cons, List.flatMap_nil, List.append_nil, ofToken]
    rw [placeItems_of_leads hraws, placeItems_of_leads hraws']
    exact ihitems hs' ht' hpre

theorem twins_index (h : (Text.lines s).map Line.body = (Text.lines t).map Line.body) :
    List.Forall₂ (Twin s t) (index s) (index t) := by
  have hparallel := parallel_blocks (Line.map_bare_eq_iff.mpr h)
  have hs : [] ++ Text.lines s <+: Text.lines s := List.prefix_refl _
  have ht : [] ++ Text.lines t <+: Text.lines t := List.prefix_refl _
  exact twins_of_parallel hparallel hs ht rfl

section Fields

variable {p q : Passage} (h : Twin s t p q)
include h

theorem Twin.bare_eq : p.token.bare = q.token.bare := by
  cases h
  assumption

theorem Twin.kind_eq : p.token.kind = q.token.kind := by
  rw [← kind_bare, h.bare_eq, kind_bare]

theorem Twin.depth?_eq : p.token.depth? = q.token.depth? := by
  rw [← depth?_bare, h.bare_eq, depth?_bare]

theorem Twin.comparable_eq : p.token.comparable = q.token.comparable := by
  rw [← comparable_bare, h.bare_eq, comparable_bare]

theorem Twin.fits_eq (w : Word) : w.fits p.token = w.fits q.token := by
  rw [Word.fits, Word.fits, h.kind_eq, h.depth?_eq]

theorem Twin.isHeading_eq : p.token.isHeading = q.token.isHeading := by
  rw [isHeading, isHeading, h.kind_eq]

theorem Twin.ends_eq (depth : Option Nat) : p.token.ends depth = q.token.ends depth := by
  simp only [ends, h.depth?_eq, h.isHeading_eq]

theorem Twin.lineNumbers_eq (hlength : (Text.lines s).length = (Text.lines t).length) :
    p.lineNumbers s = q.lineNumbers t := by
  obtain ⟨-, ⟨i, hp, hq⟩, ⟨j, hp', hq'⟩, -, -⟩ := h
  rw [lineNumbers, lineNumbers, ← hlength]
  refine List.filter_congr fun k hk => ?_
  have hk : k < (Text.lines s).length := List.mem_range.mp hk
  have hk' : k < (Text.lines t).length := hlength ▸ hk
  simp only [hp, hq, hp', hq', Text.lineStart_lt_iff hk, Text.lineStart_lt_iff hk',
    Text.lt_lineStart_succ_iff hk, Text.lt_lineStart_succ_iff hk']

end Fields

theorem twins_items {ps qs : List Passage} (h : List.Forall₂ (Twin s t) ps qs) :
    List.Forall₂ (Twin s t) (items ps) (items qs) := by
  refine List.rel_flatMap h fun p q hpq => ?_
  obtain ⟨-, -, -, hitems, -⟩ := hpq
  simpa [items] using hitems

theorem twins_body {p q : Passage} (hpq : Twin s t p q) {ps qs : List Passage}
    (h : List.Forall₂ (Twin s t) ps qs) : List.Forall₂ (Twin s t) (p.body ps) (q.body qs) := by
  refine forall₂_takeWhile (fun x y hxy => ?_) h
  rw [hxy.ends_eq, hpq.depth?_eq]

theorem atSameLine_stop {p q : Passage} (hpq : AtSameLine s t p.stop q.stop) {ps qs : List Passage}
    (h : List.Forall₂ (Twin s t) ps qs) :
    AtSameLine s t ((ps.getLast?.map stop).getD p.stop) ((qs.getLast?.map stop).getD q.stop) := by
  have hreverse := List.forall₂_reverse_iff.mpr h
  rw [← List.head?_reverse, ← List.head?_reverse]
  generalize ps.reverse = xs at hreverse ⊢
  generalize qs.reverse = ys at hreverse ⊢
  cases hreverse with
  | nil => exact hpq
  | cons hxy _ =>
    obtain ⟨-, -, hstop, -, -⟩ := hxy
    exact hstop

theorem twin_asSection {p q : Passage} (hpq : Twin s t p q) {ps qs : List Passage}
    (h : List.Forall₂ (Twin s t) ps qs) : Twin s t (p.asSection ps) (q.asSection qs) := by
  have hbody := twins_body hpq h
  obtain ⟨hbare, hstart, hstop, hitems, -⟩ := hpq
  exact .intro hbare hstart (atSameLine_stop hstop hbody) hitems hbody

theorem twins_sections {f : Token → Bool} (hf : ∀ p q, Twin s t p q → f p.token = f q.token)
    {ps qs : List Passage} (h : List.Forall₂ (Twin s t) ps qs) :
    List.Forall₂ (Twin s t) (sections f ps) (sections f qs) := by
  induction h with
  | nil => exact .nil
  | @cons p q ps qs hpq hrest ih =>
    simp only [sections, hpq.isHeading_eq, hf p q hpq]
    split
    · exact .cons (twin_asSection hpq hrest) ih
    · exact ih

theorem twins_filter {f : Token → Bool} (hf : ∀ p q, Twin s t p q → f p.token = f q.token)
    {ps qs : List Passage} (h : List.Forall₂ (Twin s t) ps qs) :
    List.Forall₂ (Twin s t) (ps.filter fun p => f p.token) (qs.filter fun q => f q.token) := by
  refine List.rel_filter (fun p q hpq => ?_) h
  simp only [hf p q hpq]

theorem twins_select {ps qs : List Passage} (h : List.Forall₂ (Twin s t) ps qs) (x : Segment) :
    List.Forall₂ (Twin s t) (x.select ps) (x.select qs) := by
  let accepts (u : Token) : Bool := Matcher.accepts? x.matcher u.comparable
  have haccepts (p q : Passage) (hpq : Twin s t p q) : accepts p.token = accepts q.token :=
    congrArg (Matcher.accepts? x.matcher) hpq.comparable_eq
  have hopens (w : Word) (p q : Passage) (hpq : Twin s t p q) :
      x.opens w p.token = x.opens w q.token := by
    rw [Segment.opens, Segment.opens, hpq.fits_eq, hpq.comparable_eq]
  unfold Segment.select
  split
  · exact .nil
  · exact Position.forall₂_pick? (twins_sections (hopens _) h) _
  · exact Position.forall₂_pick? (twins_filter haccepts (twins_items h)) _
  · exact Position.forall₂_pick? (twins_filter (hopens _) h) _

theorem twins_resolve {ps qs : List Passage} (h : List.Forall₂ (Twin s t) ps qs)
    (xs : List Segment) : List.Forall₂ (Twin s t) (resolve ps xs) (resolve qs xs) := by
  induction xs generalizing ps qs with
  | nil => exact h
  | cons x xs ih =>
    have hselect := twins_select h x
    simp only [resolve]
    split
    · refine List.rel_flatMap hselect fun p q hpq => ?_
      obtain ⟨-, -, -, -, hinner⟩ := hpq
      exact ih hinner
    · exact ih hselect

end Twin

end Passage

@[simp] theorem Token.records_bare (t : Token) : t.bare.records = t.records := by
  obtain ⟨_, c⟩ := t
  cases c <;> rfl

namespace Selection

open Passage

section Bodies

variable {s t : Text} (h : (Text.lines s).map Line.body = (Text.lines t).map Line.body)
include h

theorem map_lineNumbers_eq {ps qs : List Passage} (htwins : List.Forall₂ (Twin s t) ps qs) :
    ps.map (lineNumbers s) = qs.map (lineNumbers t) := by
  have hlength : (Text.lines s).length = (Text.lines t).length := by
    simpa using congrArg List.length h
  induction htwins with
  | nil => rfl
  | cons hpq _ ih => rw [List.map_cons, List.map_cons, hpq.lineNumbers_eq hlength, ih]

theorem twins_query (ss : List Segment) :
    List.Forall₂ (Twin s t) ((ofText s).query ss).passages ((ofText t).query ss).passages := by
  rw [passages_ofText, passages_ofText]
  exact twins_resolve (twins_index h) ss

theorem records_query_eq (ss : List Segment) :
    ((ofText s).query ss).records = ((ofText t).query ss).records := by
  have htwins := twins_query h ss
  simp only [records]
  generalize ((ofText s).query ss).passages = ps at htwins ⊢
  generalize ((ofText t).query ss).passages = qs at htwins ⊢
  induction htwins with
  | nil => rfl
  | cons hpq _ ih =>
    rw [List.flatMap_cons, List.flatMap_cons, ih, ← Token.records_bare, hpq.bare_eq,
      Token.records_bare]

/-- Documents whose lines have the same bodies have the same blocks but for the raw texts, from the
same lines, and answer each selector by the same lines and the same records. -/
theorem query_eq_of_bodies_eq :
    (Token.ofText s).map Token.bare = (Token.ofText t).map Token.bare ∧
    (index s).map (lineNumbers s) = (index t).map (lineNumbers t) ∧
    ∀ ss : List Segment,
      ((ofText s).query ss).count = ((ofText t).query ss).count ∧
      ((ofText s).query ss).passages.map (lineNumbers s) =
        ((ofText t).query ss).passages.map (lineNumbers t) ∧
      ((ofText s).query ss).records = ((ofText t).query ss).records := by
  have hblocks := (Token.parallel_blocks (Line.map_bare_eq_iff.mpr h)).map_bare
  refine ⟨hblocks, map_lineNumbers_eq h (twins_index h), fun ss => ?_⟩
  have htwins := twins_query h ss
  exact ⟨htwins.length_eq, map_lineNumbers_eq h htwins, records_query_eq h ss⟩

end Bodies

theorem query_eq_of_bodies_eq_mixed :
    let s := "- a\n\n  b\n- c\n".toList
    let t := "- a\r\n\r  b\n- c".toList
    let item : Segment := ⟨"item".toList, some .item, none, none⟩
    (Text.lines s).map Line.body = (Text.lines t).map Line.body ∧
      ((ofText s).query [item]).passages.map (lineNumbers s) = [[0, 1, 2], [3]] ∧
      ((ofText s).query [item]).passages.map (lineNumbers s) =
        ((ofText t).query [item]).passages.map (lineNumbers t) := by
  intro s t item
  have h : (Text.lines s).map Line.body = (Text.lines t).map Line.body := by decide
  exact ⟨h, by decide +kernel, ((query_eq_of_bodies_eq h).2.2 [item]).2.1⟩

end Selection

end Excerpt
