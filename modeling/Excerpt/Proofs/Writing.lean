import Excerpt.Document.Write

/-!
What writing a document does to the disk. Up to the rename all calls work on the temporary file, so
whoever removes that file has the old disk again; the rename is the one step at which the document
changes.
-/

namespace Excerpt

namespace Disk

variable {d e : Disk} {p q t : Place}

theorem node?_congr (h : d.nodes = e.nodes) (p : Place) : d.node? p = e.node? p := by
  simp only [node?, h]

theorem node?_of_walk {follow : Bool} {links : Nat} {folder : Place} {names : List Text} {n : Node}
    (h : d.walk follow links folder names = .ok (p, n)) : d.node? p = some n := by
  fun_induction walk d follow links folder names with
  | case1 links folder m hm =>
    obtain ⟨rfl, rfl⟩ := Prod.mk.inj (Except.ok.inj h)
    exact hm
  | case8 links folder name rest _ _ _ _ target hlink _ =>
    obtain ⟨rfl, rfl⟩ := Prod.mk.inj (Except.ok.inj h)
    exact hlink
  | case2 | case3 | case6 | case7 | case9 => cases h
  | case4 | case5 | case10 | case11 => rename_i ih; exact ih h

theorem node?_of_look {current : Place} {path : Text} {follow : Bool} {n : Node}
    (h : d.look current path follow = .ok (p, n)) : d.node? p = some n := by
  unfold look at h
  split at h
  · cases h
  · split at h
    · cases h
    · exact node?_of_walk h

/-- A disk is another one but for what stands at a place. -/
def IsBut (t : Place) (d e : Disk) : Prop := (e.erase t).nodes = d.nodes

theorem isBut_self (h : ∀ x ∈ d.nodes, x.1 ≠ t) : IsBut t d d :=
  List.filter_eq_self.mpr fun x hx => by simpa using h x hx

theorem IsBut.put (h : IsBut t d e) (n : Node) : IsBut t d (e.put t n) := by
  rw [IsBut] at h ⊢
  rw [← h]
  simp [erase, Disk.put]

theorem IsBut.tick (h : IsBut t d e) : IsBut t d e.tick := h

theorem node?_eq_none (h : ∀ x ∈ d.nodes, x.1 ≠ t) (ht : t ≠ []) : d.node? t = none := by
  have hfind : d.nodes.find? (fun x => x.1 == t) = none :=
    List.find?_eq_none.mpr fun x hx => by simpa using h x hx
  rw [node?, List.isEmpty_eq_false_iff.mpr ht, hfind]
  rfl

theorem IsBut.node?_of_ne (h : IsBut t d e) (hq : q ≠ t) : e.node? q = d.node? q := by
  rw [← node?_erase_of_ne e hq]
  exact node?_congr h q

/-- A disk is another one with a file in exchange for what stands at a place. -/
structure IsWith (p : Place) (f : FileData) (d e : Disk) : Prop where
  node?_self : e.node? p = some (.file f)
  node?_of_ne : ∀ q, q ≠ p → e.node? q = d.node? q

end Disk

namespace Document

open Disk

variable {d e : Disk} {p q t : Place} {fails : Failures}

theorem node?_of_find {current : Place} {r : Route} {f : FileData}
    (h : find d current r = .ok (p, f)) : d.node? p = some (.file f) := by
  unfold find at h
  split at h
  · cases h
  · split at h <;> cases h
    rename_i hlook
    exact node?_of_look hlook

section Fresh

theorem length_le_longestName {x : Place × Node} (h : x ∈ d.nodes) :
    (x.1.getLast?.getD []).length ≤ longestName d := by
  unfold longestName
  generalize d.nodes = nodes at h
  induction nodes with
  | nil => cases h
  | cons y ys ih =>
    rw [List.foldr_cons]
    rcases List.mem_cons.mp h with rfl | h
    · exact Nat.le_max_left _ _
    · exact Nat.le_trans (ih h) (Nat.le_max_right _ _)

theorem freshPlace_ne_nil (d : Disk) (folder : Place) : freshPlace d folder ≠ [] := by
  simp [freshPlace]

theorem ne_freshPlace {x : Place × Node} (h : x ∈ d.nodes) (folder : Place) :
    x.1 ≠ freshPlace d folder := by
  intro he
  -- the name of a fresh place is longer than all names on the disk
  have hle := length_le_longestName h
  rw [he] at hle
  simp only [freshPlace, List.getLast?_append, List.getLast?_singleton, Option.some_or,
    Option.getD_some, List.length_append, List.length_replicate] at hle
  have hpos : 0 < "tmp".toList.length := by decide
  omega

end Fresh

section Calls

variable {ss ts : List Step}

theorem run_append (fails : Failures) (ss ts : List Step) (d : Disk) :
    run fails (ss ++ ts) d =
      match run fails ss d with
      | (e, none) => run fails ts e
      | (e, some x) => (e, some x) := by
  induction ss generalizing d with
  | nil => rfl
  | cons s ss ih =>
    obtain ⟨c, effect⟩ := s
    simp only [List.cons_append, run]
    cases fails c with
    | none => exact ih (effect d)
    | some x =>
      by_cases hpass : isPassedOver c x
      · simpa [hpass] using ih d
      · simp [hpass]

theorem run_preserves {P : Disk → Prop} (hss : ∀ s ∈ ss, ∀ d, P d → P (s.2 d)) (hd : P d) :
    P (run fails ss d).1 := by
  induction ss generalizing d with
  | nil => exact hd
  | cons s ss ih =>
    obtain ⟨c, effect⟩ := s
    have hss' : ∀ s ∈ ss, ∀ d, P d → P (s.2 d) := fun s hs => hss s (List.mem_cons_of_mem _ hs)
    rw [run]
    split
    · exact ih hss' (hss (c, effect) List.mem_cons_self d hd)
    · split
      · exact ih hss' hd
      · exact hd

/-- Whether a call does not break the writing off: it succeeds, or its failure is passed over. -/
def goesThrough (fails : Failures) (c : Call) : Bool := (fails c).all (isPassedOver c)

theorem eq_none_of_goesThrough {c : Call} (h : goesThrough fails c = true) (hc : c ≠ .setOwner) :
    fails c = none := by
  rw [goesThrough, Option.all_eq_true] at h
  refine Option.eq_none_iff_forall_ne_some.mpr fun e he => ?_
  have hpass := h e he
  simp only [isPassedOver, Bool.and_eq_true, beq_iff_eq] at hpass
  exact hc hpass.1

/-- What a call does that may be passed over. -/
def applied (fails : Failures) (d : Disk) (s : Step) : Disk := if fails s.1 = none then s.2 d else d

theorem run_eq_none_iff : (run fails ss d).2 = none ↔ ∀ s ∈ ss, goesThrough fails s.1 = true := by
  induction ss generalizing d with
  | nil => simp [run]
  | cons s ss ih =>
    obtain ⟨c, effect⟩ := s
    rw [run, List.forall_mem_cons, goesThrough]
    cases fails c with
    | none => simp [ih]
    | some x => by_cases hpass : isPassedOver c x <;> simp [hpass, ih]

theorem run_of_complete (h : (run fails ss d).2 = none) :
    (run fails ss d).1 = ss.foldl (applied fails) d := by
  induction ss generalizing d with
  | nil => rfl
  | cons s ss ih =>
    obtain ⟨c, effect⟩ := s
    rw [run] at h ⊢
    rw [List.foldl_cons, applied]
    cases hc : fails c with
    | none => simpa [hc] using ih (by simpa [hc] using h)
    | some x =>
      by_cases hpass : isPassedOver c x
      · simpa [hc, hpass] using ih (by simpa [hc, hpass] using h)
      · simp [hc, hpass] at h

end Calls

section Draft

variable {mode : Nat} {new : List UInt8}

/-- The calls on the temporary file alone. -/
def draft (t : Place) (mode : Nat) (new : List UInt8) : List Step := [
  (.create, createAt t),
  (.write, update t fun f => { f with bytes := new }),
  (.flush, id),
  (.sync, id),
  (.setMode, update t fun f => { f with mode := mode }),
  (.setOwner, update t fun f => { f with mode := plainer f.mode })]

theorem steps_eq (t p : Place) (mode : Nat) (new : List UInt8) :
    steps t p mode new =
      draft t mode new ++ [(.rename, move t p), (.inspectAgain, id), (.setTimes, id)] := rfl

theorem isBut_update (h : IsBut t d e) (f : FileData → FileData) : IsBut t d (update t f e) := by
  unfold update
  split
  · exact h.put _
  · exact h

theorem isBut_of_mem_draft {s : Step} (hs : s ∈ draft t mode new) (h : IsBut t d e) :
    IsBut t d (s.2 e) := by
  simp only [draft, List.mem_cons, List.not_mem_nil, or_false] at hs
  rcases hs with rfl | rfl | rfl | rfl | rfl | rfl
  · exact (h.put _).tick
  · exact isBut_update h _
  · exact h
  · exact h
  · exact isBut_update h _
  · exact isBut_update h _

theorem isBut_run_draft (h : IsBut t d e) : IsBut t d (run fails (draft t mode new) e).1 :=
  run_preserves (fun _ hs _ h => isBut_of_mem_draft hs h) h

theorem node?_update (ht : t ≠ []) {f : FileData} (h : d.node? t = some (.file f))
    (g : FileData → FileData) : (update t g d).node? t = some (.file (g f)) := by
  rw [update, h]
  exact node?_put_self d ht _

/-- The mode that a document has once it is written. -/
def writtenMode (fails : Failures) (mode : Nat) : Nat :=
  if fails .setOwner = none then plainer mode else mode

theorem node?_run_draft (ht : t ≠ []) (h : (run fails (draft t mode new) d).2 = none) :
    (run fails (draft t mode new) d).1.node? t =
      some (.file ⟨new, writtenMode fails mode, d.clock, d.clock⟩) := by
  have hall := run_eq_none_iff.mp h
  simp only [draft, List.forall_mem_cons] at hall
  obtain ⟨hcreate, hwrite, hflush, hsync, hmode, -, -⟩ := hall
  have hnone {c : Call} (hc : goesThrough fails c = true) (hne : c ≠ .setOwner) : fails c = none :=
    eq_none_of_goesThrough hc hne
  have h1 : (createAt t d).node? t = some (.file ⟨[], 0o600, d.clock, d.clock⟩) :=
    node?_put_self d ht _
  have h2 := node?_update ht h1 fun f => { f with bytes := new }
  have h3 := node?_update ht h2 fun f => { f with mode := mode }
  rw [run_of_complete h]
  simp only [draft, List.foldl_cons, List.foldl_nil, applied, hnone hcreate (by simp),
    hnone hwrite (by simp), hnone hflush (by simp), hnone hsync (by simp), hnone hmode (by simp),
    if_true, id_eq]
  by_cases howner : fails .setOwner = none
  · rw [if_pos howner, writtenMode, if_pos howner]
    exact node?_update ht h3 _
  · rw [if_neg howner, writtenMode, if_neg howner]
    exact h3

end Draft

section Write

variable {mode : Nat} {new : List UInt8}

theorem isWith_move {f : FileData} (h : IsBut t d e) (hfile : e.node? t = some (.file f))
    (hfresh : ∀ x ∈ d.nodes, x.1 ≠ t) (ht : t ≠ []) (hp : p ≠ []) (hpt : p ≠ t) :
    IsWith p f d ((move t p e).erase t) := by
  rw [move, hfile]
  refine ⟨?_, fun q hq => ?_⟩
  · rw [node?_erase_of_ne _ hpt]
    exact node?_put_self _ hp _
  · by_cases hqt : q = t
    · rw [hqt, node?_erase_self _ ht, node?_eq_none hfresh ht]
    · rw [node?_erase_of_ne _ hqt, node?_put_of_ne _ hq, node?_erase_of_ne _ hqt,
        h.node?_of_ne hqt]

/-- No call up to the rename breaks the writing off. -/
def Completes (fails : Failures) : Prop :=
  ∀ c, c ≠ .inspectAgain → c ≠ .setTimes → goesThrough fails c = true

theorem completes_iff (hinspect : fails .inspect = none) :
    Completes fails ↔ (run fails (draft t mode new) d).2 = none ∧ fails .rename = none := by
  rw [run_eq_none_iff]
  constructor
  · intro h
    unfold Completes at h
    exact ⟨by simp [draft, h], eq_none_of_goesThrough (h .rename (by simp) (by simp)) (by simp)⟩
  · rintro ⟨hdraft, hrename⟩ c hagain htimes
    simp only [draft, List.forall_mem_cons] at hdraft
    cases c with
    | inspect => rw [goesThrough, hinspect]; rfl
    | rename => rw [goesThrough, hrename]; rfl
    | inspectAgain => exact absurd rfl hagain
    | setTimes => exact absurd rfl htimes
    | _ => simp [hdraft]

/-- The calls either break off before the rename, and then the old disk is left once the temporary
file is removed, or they put the new file in the place of the document. -/
theorem run_steps_cases (hinspect : fails .inspect = none) (mode : Nat) (new : List UInt8)
    (hfresh : ∀ x ∈ d.nodes, x.1 ≠ t) (ht : t ≠ []) (hp : p ≠ []) (hpt : p ≠ t) :
    (¬ Completes fails ∧ (run fails (steps t p mode new) d).2 ≠ none ∧
      ((run fails (steps t p mode new) d).1.erase t).nodes = d.nodes) ∨
    (Completes fails ∧
      (run fails (steps t p mode new) d).2 = (fails .inspectAgain).or (fails .setTimes) ∧
      IsWith p ⟨new, writtenMode fails mode, d.clock, d.clock⟩ d
        ((run fails (steps t p mode new) d).1.erase t)) := by
  have hbut : IsBut t d (run fails (draft t mode new) d).1 := isBut_run_draft (isBut_self hfresh)
  have hfile := @node?_run_draft d t fails mode new ht
  have hcompletes := @completes_iff d t fails mode new hinspect
  rw [hcompletes, steps_eq, run_append]
  generalize run fails (draft t mode new) d = result at hbut hfile ⊢
  obtain ⟨e, _ | x⟩ := result
  -- the calls behind the rename may fail, but they leave the disk as it is
  · have hwith := isWith_move hbut (hfile rfl) hfresh ht hp hpt
    cases hrename : fails .rename with
    | some x =>
      left
      simp only [run, hrename, isPassedOver]
      exact ⟨by simp, Option.some_ne_none x, hbut⟩
    | none =>
      right
      cases hagain : fails .inspectAgain <;> cases htimes : fails .setTimes <;>
        simpa [run, hrename, hagain, htimes, isPassedOver] using hwith
  · exact Or.inl ⟨by simp, by simp, hbut⟩

theorem node?_freshPlace (d : Disk) (folder : Place) : d.node? (freshPlace d folder) = none :=
  node?_eq_none (fun _ hx => ne_freshPlace hx folder) (freshPlace_ne_nil d folder)

theorem ne_of_find {current : Place} {r : Route} {f : FileData}
    (h : find d current r = .ok (p, f)) : p ≠ [] ∧ ∀ folder, p ≠ freshPlace d folder := by
  have hnode := node?_of_find h
  refine ⟨?_, fun folder he => ?_⟩
  · rintro rfl
    simp [node?] at hnode
  · rw [he, node?_freshPlace] at hnode
    cases hnode

theorem agrees_of_ensureUnchanged {s now : Stat} {r : Route}
    (h : ensureUnchanged s now r = .ok ()) : s.agrees now = true := by
  unfold ensureUnchanged at h
  split at h
  · assumption
  · cases h

/-- A document gets its new text: it is found as it was expected, and no call up to the rename breaks
the writing off. -/
structure Lands (fails : Failures) (d : Disk) (current : Place) (r : Route) (expected : Stat) :
    Prop where
  found : ∃ p f, find d current r = .ok (p, f) ∧ expected.agrees f.stat = true
  completes : Completes fails

/-- A write that fails before the rename leaves every node of the disk as it was. Any other one gives
the document the new text, and a mode without the bits that go where the owner is set. -/
theorem write_cases (fails : Failures) (d : Disk) (current : Place) (r : Route) (content : Text)
    (expected : Stat) :
    (¬ Lands fails d current r expected ∧ ∃ x,
      (write fails d current r content expected).2 = .error x ∧
      (write fails d current r content expected).1.nodes = d.nodes) ∨
    Completes fails ∧ ∃ p f, find d current r = .ok (p, f) ∧ expected.agrees f.stat = true ∧
      (write fails d current r content expected).2 =
        (match (fails .inspectAgain).or (fails .setTimes) with
        | none => .ok ()
        | some x => .error (.failed x)) ∧
      IsWith p ⟨Utf8.encode content, writtenMode fails expected.mode, d.clock, d.clock⟩ d
        (write fails d current r content expected).1 := by
  unfold write
  split
  · rename_i e he
    refine Or.inl ⟨fun h => ?_, _, rfl, rfl⟩
    simp [eq_none_of_goesThrough (h.completes .inspect (by simp) (by simp)) (by simp)] at he
  rename_i hinspect
  split
  · rename_i e hfind
    refine Or.inl ⟨?_, _, rfl, rfl⟩
    rintro ⟨⟨p, g, hg, -⟩, -⟩
    simp [hfind] at hg
  rename_i p f hfind
  split
  · rename_i hchanged
    refine Or.inl ⟨?_, _, rfl, rfl⟩
    rintro ⟨⟨q, g, hg, hagrees⟩, -⟩
    obtain ⟨rfl, rfl⟩ := Prod.mk.inj (Except.ok.inj (hfind.symm.trans hg))
    simp [ensureUnchanged, hagrees] at hchanged
  rename_i hagrees
  obtain ⟨hp, hfresh⟩ := ne_of_find hfind
  have hsteps := @run_steps_cases d p (freshPlace d p.dropLast) fails hinspect expected.mode
    (Utf8.encode content) (fun x hx => ne_freshPlace hx _) (freshPlace_ne_nil d _) hp (hfresh _)
  dsimp only
  generalize run fails _ d = result at hsteps ⊢
  obtain ⟨e, _ | x⟩ := result
  · rcases hsteps with ⟨-, hne, -⟩ | ⟨hcompletes, hnone, hwith⟩
    · exact absurd rfl hne
    · exact Or.inr ⟨hcompletes, p, f, hfind, agrees_of_ensureUnchanged hagrees, by rw [← hnone],
        hwith⟩
  · rcases hsteps with ⟨hbreaks, -, hnodes⟩ | ⟨hcompletes, hsome, hwith⟩
    · exact Or.inl ⟨fun h => hbreaks h.completes, _, rfl, hnodes⟩
    · exact Or.inr ⟨hcompletes, p, f, hfind, agrees_of_ensureUnchanged hagrees, by rw [← hsome],
        hwith⟩

end Write

end Document

end Excerpt
