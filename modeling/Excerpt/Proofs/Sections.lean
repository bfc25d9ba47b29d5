import Excerpt.Proofs.Index
import Excerpt.Passage.Resolve
import Mathlib.Data.List.TakeWhile

/-!
Sections among the blocks of a document. However deep a chain of scope segments is, each section that
it selects is a heading with the blocks behind it, up to the first one that ends it.
-/

namespace Excerpt

namespace Token

def DepthsKnown (ts : List Token) : Prop := ∀ t ∈ ts, t.isHeading = true → ∃ d, t.depth? = some d

theorem depth?_first {l : Line} {ls : List Line} (h : (first l ls).isHeading = true) :
    ∃ d, (first l ls).depth? = some d := by
  simp only [isHeading, kind, depth?, first, ofLines, content] at h ⊢
  cases hr : Opening.read l ls with
  | heading d t => exact ⟨d, by simp [Opening.content]⟩
  | paragraph =>
    simp only [hr, Opening.content] at h ⊢
    split at h
    · rename_i d hd
      exact ⟨d, by simp⟩
    · simp [Content.kind] at h
  | space | fenced | indented | rule | quote | list | table =>
    simp [hr, Opening.content, Content.kind] at h

theorem depthsKnown_blocks (ls : List Line) : DepthsKnown (blocks ls) := by
  intro t ht
  obtain ⟨m, ms, rfl⟩ := exists_eq_first ht
  exact depth?_first

theorem isHeading_of_ends {depth : Option Nat} {t : Token} (h : t.ends depth = true) :
    t.isHeading = true := by
  unfold ends at h
  split at h
  · simp only [Bool.and_eq_true] at h
    exact h.1
  · simp at h

theorem ends_of_deeper {t u w : Token} (ht : t.isHeading = true) {d : Nat} (hd : t.depth? = some d)
    (hdeep : t.ends u.depth? = false) (h : w.ends u.depth? = true) : w.ends t.depth? = true := by
  have hw := isHeading_of_ends h
  unfold ends at hdeep h ⊢
  cases hu : u.depth? with
  | none => simp [hu] at h
  | some e =>
    cases hwd : w.depth? with
    | none => simp [hu, hwd] at h
    | some f =>
      simp only [hu, hd, hwd, ht, hw, Bool.true_and, decide_eq_true_eq,
        decide_eq_false_iff_not] at hdeep h ⊢
      omega

end Token

namespace Passage

open Token

/-- The section that a heading makes at an offset with the blocks behind it. -/
def sectionAt (start : Nat) (t : Token) (ts : List Token) : Passage :=
  ⟨t, start, start + span (t :: ts), some (consecutive (start + t.raw.length) ts)⟩

theorem body_consecutive (p : Passage) (k : Nat) (ts : List Token) :
    p.body (consecutive k ts) = consecutive k (ts.takeWhile fun t => !t.ends p.token.depth?) := by
  induction ts generalizing k with
  | nil => rfl
  | cons t ts ih =>
    simp only [body] at ih
    by_cases h : t.ends p.token.depth? <;> simp [consecutive, body, ofToken, h, ih]

theorem asSection_consecutive (k : Nat) (t : Token) (ts : List Token) :
    (ofToken k t).asSection (consecutive (k + t.raw.length) ts) =
      sectionAt k t (ts.takeWhile fun u => !u.ends t.depth?) := by
  have hstop := stop_getLast?_consecutive (k + t.raw.length)
    (ts.takeWhile fun u => !u.ends t.depth?)
  simp only [asSection, body_consecutive, sectionAt, ofToken] at hstop ⊢
  cases hl : (consecutive (k + t.raw.length) (ts.takeWhile fun u => !u.ends t.depth?)).getLast? with
  | some q => simp [hstop q hl, Nat.add_assoc]
  | none =>
    have hnil := congrArg (List.map Passage.token) (List.getLast?_eq_none_iff.mp hl)
    rw [map_token_consecutive] at hnil
    simp [show (ts.takeWhile fun u => !u.ends t.depth?) = [] from hnil]

/-- A section of the blocks `ts` that stand from an offset on. -/
def IsSectionOf (k : Nat) (ts : List Token) (p : Passage) : Prop :=
  ∃ us t vs ws, ts = us ++ t :: (vs ++ ws) ∧ p = sectionAt (k + span us) t vs ∧
    t.isHeading = true ∧ (∀ v ∈ vs, v.ends t.depth? = false) ∧
    ∀ w ∈ ws.head?, w.ends t.depth? = true

theorem isSectionOf_of_mem_sections {opens : Token → Bool} {k : Nat} {ts : List Token} {p : Passage}
    (h : p ∈ sections opens (consecutive k ts)) : IsSectionOf k ts p := by
  induction ts generalizing k with
  | nil => simp [consecutive, sections] at h
  | cons t ts ih =>
    have hlater (h : p ∈ sections opens (consecutive (k + t.raw.length) ts)) :
        IsSectionOf k (t :: ts) p := by
      obtain ⟨us, u, vs, ws, rfl, he, h⟩ := ih h
      exact ⟨t :: us, u, vs, ws, rfl, by simp [he, Nat.add_assoc], h⟩
    simp only [consecutive, sections] at h
    split at h
    · rename_i hopen
      rcases List.mem_cons.mp h with he | h
      · have hheading : t.isHeading = true := (Bool.and_eq_true_iff.mp hopen).1
        refine ⟨[], t, ts.takeWhile fun u => !u.ends t.depth?,
          ts.dropWhile fun u => !u.ends t.depth?, ?_, ?_, hheading, ?_, ?_⟩
        · simp
        · rw [he, asSection_consecutive, span_nil, Nat.add_zero]
        · intro v hv
          simpa using List.mem_takeWhile_imp hv
        · intro w hw
          have hnot := List.head?_dropWhile_not (fun u => !Token.ends t.depth? u) ts
          rw [Option.mem_def.mp hw] at hnot
          simpa using hnot
      · exact hlater h
    · exact hlater h

theorem IsSectionOf.trans {k : Nat} {us vs ws : List Token} {t : Token} {p : Passage}
    (hknown : DepthsKnown vs) (hvs : ∀ v ∈ vs, v.ends t.depth? = false)
    (hws : ∀ w ∈ ws.head?, w.ends t.depth? = true)
    (h : IsSectionOf (k + span us + t.raw.length) vs p) :
    IsSectionOf k (us ++ t :: (vs ++ ws)) p := by
  obtain ⟨us', t', vs', ws', rfl, rfl, ht', hvs', hws'⟩ := h
  refine ⟨us ++ t :: us', t', vs', ws' ++ ws, by simp, by simp [Nat.add_assoc], ht', hvs', ?_⟩
  intro w hw
  rw [List.head?_append] at hw
  cases hws'' : ws'.head? with
  | some w' =>
    rw [hws'', Option.some_or] at hw
    exact hws' w (by rw [hws'']; exact hw)
  | none =>
    rw [hws'', Option.none_or] at hw
    obtain ⟨d, hd⟩ := hknown t' (by simp) ht'
    exact ends_of_deeper ht' hd (hvs t' (by simp)) (hws w hw)

end Passage

namespace Position

theorem pick_sublist {α : Type} (p : Position) (xs : List α) : (p.pick xs).Sublist xs := by
  cases p with
  | index i =>
    simp only [pick]
    generalize (if i < 0 then i + xs.length else i) = j
    split
    · cases h : xs[j.toNat]? with
      | none => simp
      | some x => simpa using List.mem_of_getElem? h
    · exact List.nil_sublist xs
  | slice start stop => exact (List.drop_sublist _ _).trans (List.take_sublist _ _)

theorem pick?_sublist {α : Type} (p : Option Position) (xs : List α) :
    (pick? p xs).Sublist xs := by
  cases p with
  | none => exact List.Sublist.refl xs
  | some p => exact p.pick_sublist xs

end Position

namespace Segment

open Passage Token

theorem mem_sections_of_mem_select {s : Segment} (hs : s.isScope = true) {ps : List Passage}
    {p : Passage} (h : p ∈ s.select ps) : ∃ opens, p ∈ sections opens ps := by
  unfold isScope at hs
  unfold select at h
  split at h
  · simp at h
  · exact ⟨_, (Position.pick?_sublist _ _).subset h⟩
  · simp_all [Word.isScope]
  · rename_i w hscope _ hw
    cases w with
    | scope d => exact (hscope d rfl).elim
    | _ => simp [hw, Word.isScope] at hs

theorem isSectionOf_of_mem_resolve {ss : List Segment} (hne : ss ≠ [])
    (hss : ∀ s ∈ ss, s.isScope = true) {k : Nat} {ts : List Token} (hknown : DepthsKnown ts)
    {p : Passage} (h : p ∈ resolve (consecutive k ts) ss) : IsSectionOf k ts p := by
  induction ss generalizing k ts with
  | nil => exact absurd rfl hne
  | cons s ss ih =>
    have hs := hss s (by simp)
    cases ss with
    | nil =>
      simp only [resolve, List.isEmpty_nil, Bool.not_true, Bool.and_false, Bool.false_eq_true,
        if_false] at h
      obtain ⟨opens, h⟩ := mem_sections_of_mem_select hs h
      exact isSectionOf_of_mem_sections h
    | cons s' ss =>
      simp only [resolve, hs, List.isEmpty_cons, Bool.not_false, Bool.and_true, if_true,
        List.mem_flatMap] at h
      obtain ⟨q, hq, h⟩ := h
      obtain ⟨opens, hq⟩ := mem_sections_of_mem_select hs hq
      obtain ⟨us, t, vs, ws, rfl, rfl, -, hvs, hws⟩ := isSectionOf_of_mem_sections hq
      have hknown' : DepthsKnown vs := fun v hv => hknown v (by simp [hv])
      exact IsSectionOf.trans hknown' hvs hws
        (ih (by simp) (fun x hx => hss x (List.mem_cons_of_mem _ hx)) hknown' h)

end Segment

end Excerpt
