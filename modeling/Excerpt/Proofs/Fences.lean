import Excerpt.Markdown.Fence
import Excerpt.Proofs.Subtexts

/-!
Fences over a series of lines. Whatever is asked in whatever order, the context of a scan has one of two
shapes, and the calls that succeed are openings and closings in turn, where each closing line has a run
of marks at least as long as that of the line before it.
-/

namespace Excerpt

namespace Text

theorem le_columnsFrom (n : Nat) (t : Text) : n ≤ columnsFrom n t := by
  fun_induction columnsFrom n t with
  | case1 n r ih => exact Nat.le_of_succ_le ih
  | case2 n r ih => exact Nat.le_trans (Nat.le_add_right n _) ih
  | case3 => exact Nat.le_refl _

/-- A tab leads to the fourth column or behind it, so nothing but spaces stands before that. -/
theorem exists_spaces {n : Nat} {t : Text} (h : columnsFrom n t ≤ 3) :
    ∃ k, n + k ≤ 3 ∧ t = List.replicate k ' ' ++ t.dropWhile isGap := by
  fun_induction columnsFrom n t with
  | case1 n r ih =>
    obtain ⟨k, hk, hr⟩ := ih h
    refine ⟨k + 1, by omega, ?_⟩
    rw [List.replicate_succ, List.cons_append, List.dropWhile_cons_of_pos (by decide), ← hr]
  | case2 n r _ =>
    have hle := le_columnsFrom (afterTab n) r
    unfold afterTab at hle h
    omega
  | case3 n t hspace htab =>
    refine ⟨0, h, (dropWhile_eq_self fun c hc => ?_).symm⟩
    obtain ⟨r, rfl⟩ := List.head?_eq_some_iff.mp hc
    have hc' : c ≠ ' ' ∧ c ≠ '\t' := ⟨fun h => hspace r (h ▸ rfl), fun h => htab r (h ▸ rfl)⟩
    simp [isGap, hc']

end Text

namespace Fence

structure IsLawful (f : Fence) : Prop where
  mark : f.mark = '`' ∨ f.mark = '~'
  size : 3 ≤ f.size
  indent : f.indent ≤ 3

/-- At most three blanks, which make the indent of the fence, then all its marks. -/
def OpenedBy (f : Fence) (line : Text) : Prop :=
  ∃ lead info, line = lead ++ (List.replicate f.size f.mark ++ info) ∧
    (lead.length ≤ 3 ∧ ∀ c ∈ lead, Text.isBlank c = true) ∧
      Text.columns lead = f.indent ∧ info.head? ≠ some f.mark

/-- At most three spaces, then a run of marks as long as that of the fence or longer, then blanks. -/
def ClosedBy (f : Fence) (line : Text) : Prop :=
  ∃ k n rest, line = List.replicate k ' ' ++ (List.replicate n f.mark ++ rest) ∧
    k ≤ 3 ∧ f.size ≤ n ∧ ∀ c ∈ rest, Text.isBlank c = true

theorem of_opening? {line info : Text} {f : Fence} (h : opening? line = some (f, info)) :
    f.IsLawful ∧ f.OpenedBy line := by
  obtain ⟨⟨hmark, hsize, hindent⟩, lead, rest, hline, hlead, hcolumns, hhead, -⟩ := opening?_eq_some h
  exact ⟨⟨by simpa [isMark] using hmark, hsize, hindent⟩, lead, rest, hline, hlead, hcolumns, hhead⟩

theorem of_closedBy {line : Text} {f : Fence} (h : f.closedBy line = true) : f.ClosedBy line := by
  simp only [closedBy, Bool.and_eq_true, decide_eq_true_eq] at h
  obtain ⟨⟨hsize, hrest⟩, hcolumns⟩ := h
  obtain ⟨k, hk, hline⟩ := Text.exists_spaces hcolumns
  refine ⟨k, _, (line.dropWhile Text.isGap).dropWhile (· == f.mark), ?_, by omega, hsize,
    List.all_eq_true.mp hrest⟩
  rw [← takeWhile_beq_eq_replicate, List.takeWhile_append_dropWhile]
  exact hline

end Fence

namespace FenceState

def IsLawful : FenceState → Prop
  | outside => True
  | inside f => f.IsLawful

/-- The state in the fields of a context. -/
def context : FenceState → FenceContext
  | outside => {}
  | inside f => ⟨true, some f.mark, f.size, f.indent⟩

def next? (s : FenceState) : FenceCall → Option FenceState
  | .opening line => s.openBy? line
  | .closing line => s.closeBy? line

end FenceState

namespace FenceCall

/-- Lines that open a fence, each followed by a line that closes it, but perhaps for the last one. -/
inductive InTurn : List FenceCall → Prop
  | done : InTurn []
  | opened (first : Text) : InTurn [opening first]
  | closed {f : Fence} {first last : Text} {cs : List FenceCall} (hf : f.IsLawful)
      (hfirst : f.OpenedBy first) (hlast : f.ClosedBy last) (hcs : InTurn cs) :
      InTurn (opening first :: closing last :: cs)

end FenceCall

namespace FenceContext

open FenceState FenceCall

def IsLegal (x : FenceContext) : Prop :=
  x = ⟨false, none, 0, 0⟩ ∨
    x.inCode = true ∧ (x.mark = some '`' ∨ x.mark = some '~') ∧ 3 ≤ x.size ∧ x.indent ≤ 3

/-- The calls that succeed, in their order. -/
def succeeded (x : FenceContext) (calls : List FenceCall) : List FenceCall :=
  ((calls.zip (x.trace calls)).filter fun r => r.2.1).map Prod.fst

theorem succeeded_cons (x : FenceContext) (c : FenceCall) (cs : List FenceCall) :
    x.succeeded (c :: cs) =
      if (x.call c).1 then c :: (x.call c).2.succeeded cs else (x.call c).2.succeeded cs := by
  simp only [succeeded, trace, List.zip_cons_cons, List.filter_cons]
  split <;> rfl

theorem isLegal_context {s : FenceState} (hs : s.IsLawful) : s.context.IsLegal := by
  cases s with
  | outside => exact .inl rfl
  | inside f => exact .inr ⟨rfl, by simpa [context] using hs.mark, hs.size, hs.indent⟩

theorem call_of_false {x : FenceContext} {c : FenceCall} (h : (x.call c).1 = false) :
    (x.call c).2 = x := by
  cases c with
  | opening line =>
    simp only [call, tryOpen] at h ⊢
    split
    · rfl
    · split <;> simp_all
  | closing line =>
    simp only [call, tryClose] at h ⊢
    split
    · split <;> simp_all
    · rfl

theorem call_context {s : FenceState} (hs : s.IsLawful) (c : FenceCall) :
    s.context.call c =
      match s.next? c with
      | none => (false, s.context)
      | some t => (true, t.context) := by
  cases c with
  | opening line =>
    cases s with
    | outside =>
      simp only [next?, openBy?, context, call, tryOpen]
      cases Fence.opening? line <;> rfl
    | inside f => rfl
  | closing line =>
    cases s with
    | outside => rfl
    | inside f =>
      simp only [next?, closeBy?, context, call, tryClose]
      by_cases hclosed : f.closedBy line = true
      · have hhead : (line.dropWhile Text.isGap).head? = some f.mark := by
          have hsize := hs.size
          simp only [Fence.closedBy, Bool.and_eq_true, decide_eq_true_eq] at hclosed
          have hrun : 0 < ((line.dropWhile Text.isGap).takeWhile (· == f.mark)).length := by omega
          cases hline : line.dropWhile Text.isGap with
          | nil => simp [hline] at hrun
          | cons d r =>
            by_cases hd : d = f.mark
            · rw [hd]; rfl
            · simp [hline, hd] at hrun
        simp [hclosed, hhead]
      · simp [hclosed]

theorem isLawful_of_next? {s t : FenceState} {c : FenceCall} (hs : s.IsLawful)
    (h : s.next? c = some t) : t.IsLawful := by
  cases c with
  | opening line =>
    cases s with
    | outside =>
      obtain ⟨⟨f, info⟩, hopen, rfl⟩ := Option.map_eq_some_iff.mp h
      exact (Fence.of_opening? hopen).1
    | inside f => cases h
  | closing line =>
    cases s with
    | outside => cases h
    | inside f =>
      simp only [next?, closeBy?] at h
      split at h
      · cases h
        trivial
      · cases h

theorem exists_of_mem_trace {s : FenceState} (hs : s.IsLawful) {calls : List FenceCall}
    {r : Bool × FenceContext} (h : r ∈ s.context.trace calls) :
    ∃ t : FenceState, t.IsLawful ∧ r.2 = t.context := by
  induction calls generalizing s with
  | nil => simp [trace] at h
  | cons c cs ih =>
    rw [trace, call_context hs] at h
    cases hnext : s.next? c with
    | none =>
      simp only [hnext] at h
      rcases List.mem_cons.mp h with rfl | h
      · exact ⟨s, hs, rfl⟩
      · exact ih hs h
    | some t =>
      simp only [hnext] at h
      have ht := isLawful_of_next? hs hnext
      rcases List.mem_cons.mp h with rfl | h
      · exact ⟨t, ht, rfl⟩
      · exact ih ht h

/-- What the calls from a state on say about the calls that succeed: inside of a fence, the line that
opened it comes first. -/
def Continues (s : FenceState) (cs : List FenceCall) : Prop :=
  match s with
  | outside => InTurn cs
  | inside f => ∀ first, f.OpenedBy first → InTurn (opening first :: cs)

theorem continues_succeeded {s : FenceState} (hs : s.IsLawful) (calls : List FenceCall) :
    Continues s (s.context.succeeded calls) := by
  -- Over all states at once: a call that succeeds goes on from another state, and one that is turned
  -- down from the same one.
  induction calls generalizing s with
  | nil =>
    cases s with
    | outside => exact .done
    | inside f => exact fun first _ => .opened first
  | cons c cs ih =>
    rw [succeeded_cons, call_context hs]
    cases hnext : s.next? c with
    | none => exact ih hs
    | some t =>
      have hrest := ih (isLawful_of_next? hs hnext)
      cases c with
      | opening line =>
        cases s with
        | outside =>
          obtain ⟨⟨f, info⟩, hopen, rfl⟩ := Option.map_eq_some_iff.mp hnext
          exact hrest line (Fence.of_opening? hopen).2
        | inside f => cases hnext
      | closing line =>
        cases s with
        | outside => cases hnext
        | inside f =>
          simp only [next?, closeBy?] at hnext
          split at hnext
          · rename_i hclosed
            cases hnext
            exact fun first hfirst => .closed hs hfirst (Fence.of_closedBy hclosed) hrest
          · cases hnext

/-- However a scan asks, its context is the fresh one or that of a fence, an answer of no leaves it as it
was, and the calls that succeed open and close fences in turn. -/
theorem trace_fresh (calls : List FenceCall) :
    (∀ x ∈ {} :: (trace {} calls).map Prod.snd, x.IsLegal) ∧
      (∀ (x : FenceContext) (c : FenceCall), (x.call c).1 = false → (x.call c).2 = x) ∧
      InTurn (succeeded {} calls) := by
  refine ⟨?_, fun x c h => call_of_false h, continues_succeeded (s := .outside) trivial calls⟩
  intro x hx
  rcases List.mem_cons.mp hx with rfl | hx
  · exact .inl rfl
  · obtain ⟨r, hr, rfl⟩ := List.mem_map.mp hx
    obtain ⟨t, ht, hcontext⟩ := exists_of_mem_trace (s := .outside) trivial hr
    rw [hcontext]
    exact isLegal_context ht

/-- The run of a scan that asks out of turn, too: a fence whose info has a mark, one within a fence, and
two closings without enough marks or without a fence are turned down. -/
theorem trace_fresh_mixed :
    let calls := [.closing "```".toList, .opening "``` a`".toList, .opening " ````lean".toList,
      .opening "~~~".toList, .closing "```".toList, .closing "  ````` \t".toList,
      .opening "~~~ `".toList]
    (trace {} calls).map Prod.fst = [false, false, true, false, false, true, true] ∧
      InTurn (succeeded {} calls) ∧ (call {} (.opening "``` a`".toList)).2 = {} := by
  intro calls
  have hrefused : (call {} (.opening "``` a`".toList)).1 = false := by decide +kernel
  obtain ⟨-, hsame, hturn⟩ := trace_fresh calls
  exact ⟨by decide +kernel, hturn, hsame {} _ hrefused⟩

end FenceContext

end Excerpt
