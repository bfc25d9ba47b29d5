import Excerpt.Proofs.Stages

/-!
Matchers and their negations. A chain that ends in a segment without a position finds with a matcher
those of what it finds without one that the matcher accepts, and with its negation the others, however
the chain gets there.
-/

namespace Excerpt

theorem any_or {α : Type} (xs : List α) (f g : α → Bool) :
    (xs.any fun x => f x || g x) = (xs.any f || xs.any g) := by
  induction xs with
  | nil => rfl
  | cons x xs ih => simp [ih, Bool.or_assoc, Bool.or_left_comm]

/-- A token inside another one: the token itself, or one inside an item of it. -/
inductive Token.Inside : Token → Token → Prop where
  | self (t : Token) : Inside t t
  | item {t u v : Token} (hu : u ∈ t.items) (hv : Inside v u) : Inside v t

namespace Matcher

theorem accepts_plain (c : Comparison) (t : Text) : accepts ⟨c, false⟩ t = c.holds t :=
  Bool.bne_false _

theorem accepts_negated (c : Comparison) (t : Text) : accepts ⟨c, true⟩ t = !c.holds t :=
  Bool.bne_true _

end Matcher

namespace Passage

/-- Every heading among the passages has a depth, and so has every one inside their items. -/
def Graded (ps : List Passage) : Prop :=
  ∀ p ∈ ps, ∀ t : Token, t.Inside p.token → t.isHeading = true → ∃ d, t.depth? = some d

theorem Graded.mono {ps qs : List Passage} (hps : Graded ps) (h : qs ⊆ ps) : Graded qs :=
  fun p hp => hps p (h hp)

theorem Graded.items {ps : List Passage} (hps : Graded ps) : Graded (items ps) := by
  intro p hp t ht
  obtain ⟨q, hq, hmem, -⟩ := exists_of_mem_items hp
  exact hps q hq t (.item hmem ht)

theorem Graded.innerList {ps : List Passage} (hps : Graded ps) {opens : Token → Bool} {p : Passage}
    (hp : p ∈ sections opens ps) : Graded p.innerList := by
  obtain ⟨h, qs, hsuffix, -, rfl⟩ := exists_suffix_of_mem_sections hp
  have hsub : (h.asSection qs).innerList ⊆ qs := (List.takeWhile_prefix _).subset
  exact hps.mono fun q hq => hsuffix.subset (List.mem_cons_of_mem h (hsub hq))

theorem graded_index (source : Text) : Graded (index source) := by
  intro p hp t ht hheading
  have hmem := token_mem_of_mem_consecutive hp
  cases ht with
  | self => exact Token.depthsKnown_blocks _ _ hmem hheading
  | @item t u v hu hv =>
    -- an item has no items itself, and it is no heading
    have hkind : u.kind = .item := Token.kind_of_mem_items hmem u hu
    cases hv with
    | self => simp [Token.isHeading, hkind] at hheading
    | item hw _ => simp [Token.items_eq_nil (t := u) (by simp [hkind])] at hw

section Unclear

variable {ps : List Passage} {opens : Token → Bool}

theorem sectionsUnclear_of_graded (hps : Graded ps) : sectionsUnclear opens ps = false := by
  induction ps with
  | nil => rfl
  | cons p ps ih =>
    have hp := hps p List.mem_cons_self p.token (.self _)
    have hrest : Graded ps := hps.mono (List.subset_cons_self p ps)
    rw [sectionsUnclear, ih hrest, Bool.or_false, Bool.and_eq_false_imp]
    intro hopen
    obtain ⟨d, hd⟩ := hp (Bool.and_eq_true_iff.mp hopen).1
    rw [Option.any_eq_false]
    intro q hq
    have hheading := List.find?_some hq
    obtain ⟨e, he⟩ := hrest q (List.mem_of_find?_eq_some hq) q.token (.self _)
      (Bool.and_eq_true_iff.mp hheading).1
    simp [hd, he]

/-- Headings that pass a test meet unknown depths if those do that pass another one as well, or those
that do not. -/
theorem sectionsUnclear_or (f : Token → Bool) :
    sectionsUnclear opens ps =
      (sectionsUnclear (fun t => opens t && f t) ps ||
        sectionsUnclear (fun t => opens t && !f t) ps) := by
  induction ps with
  | nil => rfl
  | cons p ps ih =>
    rw [sectionsUnclear, sectionsUnclear, sectionsUnclear, ih]
    cases f p.token <;> simp [Bool.or_assoc, Bool.or_left_comm]

theorem sections_and (f : Token → Bool) :
    sections (fun t => opens t && f t) ps = (sections opens ps).filter fun p => f p.token := by
  induction ps with
  | nil => rfl
  | cons p ps ih =>
    cases hopen : p.token.isHeading && opens p.token <;> cases hf : f p.token <;>
      simp [sections, hopen, hf, ih]

end Unclear

end Passage

namespace Segment

open Passage

theorem isScope_iff {s : Segment} : s.isScope = true ↔ ∃ d, s.word = some (.scope d) := by
  rw [isScope, Option.any_eq_true]
  constructor
  · rintro ⟨w, hw, h⟩
    cases w with
    | scope d => exact ⟨d, hw⟩
    | _ => cases h
  · rintro ⟨d, hw⟩
    exact ⟨.scope d, hw, rfl⟩

theorem unclear_of_not_isScope {s : Segment} (hs : s.isScope = false) (ss : List Segment)
    (ps : List Passage) : unclear ps (s :: ss) = unclear (s.select ps) ss := by
  rw [unclear]
  split
  · rename_i d hw
    simp [isScope, hw, Word.isScope] at hs
  · rfl

theorem unclear_scope {s : Segment} {d : Option Nat} (hw : s.word = some (.scope d))
    {ss : List Segment} (hss : ss ≠ []) (ps : List Passage) :
    unclear ps (s :: ss) =
      (sectionsUnclear (s.opens (.scope d)) ps ||
        (s.select ps).any fun p => unclear p.innerList ss) := by
  simp [unclear, hw, List.isEmpty_eq_false_iff.mpr hss]

theorem graded_select {s : Segment} (hs : s.isScope = false) {ps : List Passage} (hps : Graded ps) :
    Graded (s.select ps) := by
  rcases select_subset hs with h | h
  · exact hps.mono (h ps)
  · exact hps.items.mono (h ps)

/-- Where all depths are known, no chain compares a heading with one of unknown depth. -/
theorem unclear_of_graded {ps : List Passage} (hps : Graded ps) (ss : List Segment) :
    unclear ps ss = false := by
  induction ss generalizing ps with
  | nil => rfl
  | cons s ss ih =>
    cases hs : s.isScope with
    | false =>
      rw [unclear_of_not_isScope hs]
      exact ih (graded_select hs hps)
    | true =>
      obtain ⟨d, hw⟩ := isScope_iff.mp hs
      have hinner : (s.select ps).any (fun p => unclear p.innerList ss) = false := by
        refine List.any_eq_false.mpr fun p hp => ?_
        obtain ⟨opens, hp⟩ := mem_sections_of_mem_select hs hp
        simp [ih (hps.innerList hp)]
      simp [unclear, hw, sectionsUnclear_of_graded hps, hinner]

/-- The segment with a matcher and without a position. -/
def tested (name : Text) (w : Option Word) (m : Option Matcher) : Segment := ⟨name, w, m, none⟩

section Tested

variable (name : Text) (w : Option Word)

theorem opens_tested (v : Word) :
    (tested name w none).opens v = v.fits :=
  funext fun t => Bool.and_true (v.fits t)

theorem select_tested (m : Option Matcher) (ps : List Passage) :
    (tested name w m).select ps =
      ((tested name w none).select ps).filter fun p => Matcher.accepts? m p.token.comparable := by
  cases w with
  | none => rfl
  | some w =>
    cases w with
    | scope d =>
      change sections _ ps = (sections ((tested name _ none).opens (.scope d)) ps).filter _
      rw [opens_tested]
      exact sections_and fun t => Matcher.accepts? m t.comparable
    | item => simp [select, tested, Position.pick?, Matcher.accepts?]
    | _ =>
      change ps.filter _ = (ps.filter fun p => (tested name _ none).opens _ p.token).filter _
      rw [opens_tested, List.filter_filter]
      exact List.filter_congr fun p _ => Bool.and_comm _ _

theorem resolve_tested (m : Option Matcher) (us : List Segment) (ps : List Passage) :
    resolve ps (us ++ [tested name w m]) =
      (resolve ps (us ++ [tested name w none])).filter
        fun p => Matcher.accepts? m p.token.comparable := by
  induction us generalizing ps with
  | nil => simp only [List.nil_append, resolve_singleton, select_tested name w m]
  | cons u us ih =>
    have hne (s : Segment) : us ++ [s] ≠ [] := by simp
    cases hu : u.isScope with
    | true => simp only [List.cons_append, resolve_scope hu (hne _), ih, List.filter_flatMap]
    | false => simp only [List.cons_append, resolve_of_not_isScope hu, ih]

theorem unclear_singleton {s : Segment} {d : Option Nat} (hw : s.word = some (.scope d))
    (ps : List Passage) : unclear ps [s] = sectionsUnclear (s.opens (.scope d)) ps := by
  simp [unclear, hw]

/-- A chain meets unknown depths if and only if it does so with a matcher or with its negation. -/
theorem unclear_tested (c : Comparison) (us : List Segment) (ps : List Passage) :
    unclear ps (us ++ [tested name w none]) =
      (unclear ps (us ++ [tested name w (some ⟨c, false⟩)]) ||
        unclear ps (us ++ [tested name w (some ⟨c, true⟩)])) := by
  induction us generalizing ps with
  | nil =>
    cases hscope : (tested name w none).isScope with
    | true =>
      obtain ⟨d, rfl : w = some (.scope d)⟩ := isScope_iff.mp hscope
      have hplain : (tested name (some (.scope d)) (some ⟨c, false⟩)).opens (.scope d) =
          fun t => (Word.scope d).fits t && c.holds t.comparable :=
        funext fun t => congrArg _ (Matcher.accepts_plain c t.comparable)
      have hnegated : (tested name (some (.scope d)) (some ⟨c, true⟩)).opens (.scope d) =
          fun t => (Word.scope d).fits t && !c.holds t.comparable :=
        funext fun t => congrArg _ (Matcher.accepts_negated c t.comparable)
      simp only [List.nil_append, unclear_singleton (rfl : (tested name _ _).word = _), hplain,
        hnegated, opens_tested]
      exact sectionsUnclear_or _
    | false =>
      have hleaf (m : Option Matcher) : unclear ps [tested name w m] = false :=
        unclear_of_not_isScope (s := tested name w m) hscope [] ps
      simp only [List.nil_append, hleaf, Bool.or_false]
  | cons u us ih =>
    have hne (s : Segment) : us ++ [s] ≠ [] := by simp
    cases hu : u.isScope with
    | true =>
      obtain ⟨d, hw⟩ := isScope_iff.mp hu
      simp only [List.cons_append, unclear_scope hw (hne _), ih, any_or, Bool.or_assoc,
        Bool.or_left_comm, Bool.or_self_left]
    | false => simp only [List.cons_append, unclear_of_not_isScope hu, ih]

end Tested

theorem resolve?_eq_none_iff {ps : List Passage} {ss : List Segment} :
    resolve? ps ss = none ↔ unclear ps ss = true := by
  cases h : unclear ps ss <;> simp [resolve?, h]

theorem resolve?_eq_some_iff {ps rs : List Passage} {ss : List Segment} :
    resolve? ps ss = some rs ↔ unclear ps ss = false ∧ resolve ps ss = rs := by
  cases h : unclear ps ss <;> simp [resolve?, h]

open Classical in
/-- What a chain finds that ends in a segment with a matcher but no position, and what it finds with the
matcher negated, are two parts of what it finds without a matcher: the passages whose text the matcher
accepts, and the others, in their order and each as often as there. It finds them unless it has to
compare headings of unknown depth. -/
theorem resolve_complement (ps : List Passage) (us : List Segment) (name : Text) (w : Option Word)
    (c : Comparison) :
    let all := us ++ [tested name w none]
    let plain := us ++ [tested name w (some ⟨c, false⟩)]
    let negated := us ++ [tested name w (some ⟨c, true⟩)]
    (Graded ps → ∃ rs, resolve? ps all = some rs) ∧
    (resolve? ps all = none ↔ resolve? ps plain = none ∨ resolve? ps negated = none) ∧
    ∀ rs, resolve? ps all = some rs → ∃ xs ys,
      resolve? ps plain = some xs ∧ resolve? ps negated = some ys ∧
      xs = (rs.filter fun p => c.holds p.token.comparable) ∧
      ys = (rs.filter fun p => !c.holds p.token.comparable) ∧
      ∀ p, (c.holds p.token.comparable = true → xs.count p = rs.count p ∧ p ∉ ys) ∧
        (c.holds p.token.comparable = false → p ∉ xs ∧ ys.count p = rs.count p) := by
  intro all plain negated
  have hunclear : unclear ps all = (unclear ps plain || unclear ps negated) :=
    unclear_tested name w c us ps
  refine ⟨fun hps => ?_, ?_, fun rs hrs => ?_⟩
  · exact ⟨_, resolve?_eq_some_iff.mpr ⟨unclear_of_graded hps all, rfl⟩⟩
  · simp only [resolve?_eq_none_iff, hunclear, Bool.or_eq_true]
  · obtain ⟨hclear, rfl⟩ := resolve?_eq_some_iff.mp hrs
    rw [hunclear, Bool.or_eq_false_iff] at hclear
    have hxs : resolve ps plain = (resolve ps all).filter fun p => c.holds p.token.comparable := by
      simpa only [Matcher.accepts?, Matcher.accepts_plain] using
        resolve_tested name w (some ⟨c, false⟩) us ps
    have hys : resolve ps negated = (resolve ps all).filter fun p => !c.holds p.token.comparable := by
      simpa only [Matcher.accepts?, Matcher.accepts_negated] using
        resolve_tested name w (some ⟨c, true⟩) us ps
    refine ⟨_, _, resolve?_eq_some_iff.mpr ⟨hclear.1, hxs⟩,
      resolve?_eq_some_iff.mpr ⟨hclear.2, hys⟩, rfl, rfl, fun p => ⟨fun hp => ?_, fun hp => ?_⟩⟩
    · exact ⟨List.count_filter hp, by simp [hp]⟩
    · exact ⟨by simp [hp], List.count_filter (by simp [hp])⟩

theorem resolve_complement_nested :
    let source := "# A\n## B\n### C\n".toList
    let scope : Segment := ⟨"section".toList, some (.scope none), none, none⟩
    let c := Comparison.contains "C".toList
    let test (m : Option Matcher) := [scope] ++ [tested "section".toList (some (.scope none)) m]
    Graded (index source) ∧ ∃ rs xs ys,
      resolve? (index source) (test none) = some rs ∧ rs.map Passage.start = [4, 9, 9] ∧
      resolve? (index source) (test (some ⟨c, false⟩)) = some xs ∧ xs.map Passage.start = [9, 9] ∧
      resolve? (index source) (test (some ⟨c, true⟩)) = some ys ∧ ys.map Passage.start = [4] ∧
      ys = rs.filter fun p => !c.holds p.token.comparable := by
  intro source scope c test
  have hall : (resolve? (index source) (test none)).map (List.map Passage.start) =
      some [4, 9, 9] := by decide +kernel
  have hplain : (resolve? (index source) (test (some ⟨c, false⟩))).map (List.map Passage.start) =
      some [9, 9] := by decide +kernel
  have hnegated : (resolve? (index source) (test (some ⟨c, true⟩))).map (List.map Passage.start) =
      some [4] := by decide +kernel
  obtain ⟨hgraded, -, hparts⟩ :=
    resolve_complement (index source) [scope] "section".toList (some (.scope none)) c
  obtain ⟨rs, hrs⟩ := hgraded (graded_index source)
  obtain ⟨xs, ys, hxs, hys, -, hfilter, -⟩ := hparts rs hrs
  have hstarts {o : Option (List Passage)} {ps : List Passage} {ks : List Nat} (ho : o = some ps)
      (hks : o.map (List.map Passage.start) = some ks) : ps.map Passage.start = ks := by
    simpa [ho] using hks
  exact ⟨graded_index source, rs, xs, ys, hrs, hstarts hrs hall, hxs, hstarts hxs hplain, hys,
    hstarts hys hnegated, hfilter⟩

end Segment

end Excerpt
