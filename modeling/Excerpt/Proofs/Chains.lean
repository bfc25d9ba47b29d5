import Excerpt.Proofs.Stages

/-!
Chains asked in two queries. Up to its first scope a chain passes on single blocks and items, which a
second query takes as they are; a section is taken apart into its heading and what it holds.
-/

namespace Excerpt

namespace Passage

/-- Passages none of which is a section. -/
def Flat (ps : List Passage) : Prop := ∀ p ∈ ps, p.inner = none

theorem Flat.mono {ps qs : List Passage} (hps : Flat ps) (h : qs ⊆ ps) : Flat qs :=
  fun p hp => hps p (h hp)

theorem Flat.expand_eq {ps : List Passage} (hps : Flat ps) : expand ps = ps := by
  induction ps with
  | nil => rfl
  | cons p ps ih =>
    have hp : p.inner = none := hps p List.mem_cons_self
    have hrest : expand ps = ps := ih fun q hq => hps q (List.mem_cons_of_mem p hq)
    simpa [expand, hp] using hrest

theorem flat_placeItems (start : Nat) (rest : Text) (ts : List Token) :
    Flat (placeItems start rest ts) := by
  induction ts generalizing start rest with
  | nil => exact List.forall_mem_nil _
  | cons t ts ih =>
    rw [placeItems]
    split
    · exact ih start rest
    · exact List.forall_mem_cons.mpr ⟨rfl, ih _ _⟩

theorem flat_items (ps : List Passage) : Flat (items ps) := by
  intro p hp
  obtain ⟨q, -, hp⟩ := List.mem_flatMap.mp hp
  exact flat_placeItems _ _ _ p hp

end Passage

namespace Segment

open Passage

theorem flat_select {s : Segment} (hs : s.isScope = false) {ps : List Passage} (hps : Flat ps) :
    Flat (s.select ps) := by
  rcases select_subset hs with h | h
  · exact hps.mono (h ps)
  · exact (flat_items ps).mono (h ps)

variable {us : List Segment} (hus : ∀ s ∈ us, s.isScope = false)
include hus

theorem flat_resolve {ps : List Passage} (hps : Flat ps) : Flat (resolve ps us) := by
  induction us generalizing ps with
  | nil => exact hps
  | cons u us ih =>
    have hu := hus u List.mem_cons_self
    rw [resolve_of_not_isScope hu]
    exact ih (fun s hs => hus s (List.mem_cons_of_mem u hs)) (flat_select hu hps)

theorem resolve_append (vs : List Segment) (ps : List Passage) :
    resolve ps (us ++ vs) = resolve (resolve ps us) vs := by
  induction us generalizing ps with
  | nil => rfl
  | cons u us ih =>
    have hu := hus u List.mem_cons_self
    rw [List.cons_append, resolve_of_not_isScope hu, resolve_of_not_isScope hu]
    exact ih (fun s hs => hus s (List.mem_cons_of_mem u hs)) _

/-- Where no scope comes before the cut, the second query starts from what the first one found. -/
theorem resolve_expand_resolve {ps : List Passage} (hps : Flat ps) (vs : List Segment) :
    resolve (expand (resolve ps us)) vs = resolve ps (us ++ vs) := by
  rw [(flat_resolve hus hps).expand_eq, resolve_append hus]

end Segment

namespace Selection

open Passage Segment

variable {source : Text} {us : List Segment} (hus : ∀ s ∈ us, s.isScope = false)
include hus

theorem Reachable.query_query {x : Selection} (hx : Reachable source x) (vs : List Segment) :
    (x.query us).query vs = x.query (us ++ vs) := by
  have hflat : Flat (expand x.passages) := fun p hp =>
    (isPlain_of_mem_expand hx.places.stands hp).inner_eq
  exact congrArg (Selection.mk x.source) (resolve_expand_resolve hus hflat vs)

/-- A chain may be cut into two queries anywhere before its first scope segment: the two give what the
chain gives at once, whatever the second one asks for. -/
theorem query_append (vs : List Segment) :
    ((ofText source).query us).query vs = (ofText source).query (us ++ vs) ∧
      resolve (expand (resolve (index source) us)) vs = resolve (index source) (us ++ vs) :=
  ⟨Reachable.start.query_query hus vs,
    resolve_expand_resolve hus (fun _ hp => (isPlain_of_mem_index hp).inner_eq) vs⟩

omit hus

theorem query_append_headings :
    let heading : Segment := ⟨"heading".toList, some (.heading none), none, none⟩
    let scope : Segment := ⟨"section".toList, some (.scope none), none, some (.index 0)⟩
    let us := [{ heading with position := some (.slice (some 1) none) }]
    let vs := [scope, heading]
    let source := "# A\n## B\nx\n### C\n- y\n".toList
    (∀ s ∈ us, s.isScope = false) ∧
      (((ofText source).query us).query vs).passages.map Passage.start = [11] ∧
      ((ofText source).query us).query vs = (ofText source).query (us ++ vs) := by
  intro heading scope us vs source
  exact ⟨by decide, by decide +kernel, (query_append (by decide) vs).1⟩

/-- Behind a scope the cut matters: a position then counts over all sections and not in each of them. -/
example :
    let scope : Segment := ⟨"section".toList, some (.scope none), none, none⟩
    let first : Segment := ⟨"paragraph".toList, some .paragraph, none, some (.index 0)⟩
    let s := ofText "# A\nx\n# B\ny\n".toList
    ((s.query [scope]).query [first]).passages.map Passage.start = [4] ∧
      (s.query [scope, first]).passages.map Passage.start = [4, 10] := by
  decide +kernel

end Selection

end Excerpt
