import Excerpt.Disk.Real
import Excerpt.Proofs.Joining
import Excerpt.Proofs.Writing
import Mathlib

/-!
Real places: no link is on the way to them. Replacing the links in a path keeps one thing true: the
path so far, and every path that a link met before stands for, leads to a real place. So the place
that comes out is a real one, and a lookup of it finds what stands there.
-/

namespace Excerpt

namespace Disk

variable {d : Disk} {current p q : Place} {r : Route} {name : Text}

/-- A name that an entry of a folder can have. -/
structure IsProper (name : Text) : Prop where
  ne_nil : name ≠ []
  ne_point : name ≠ ['.']
  ne_parent : name ≠ parentName
  noSlash : '/' ∉ name

instance : DecidablePred IsProper := fun name =>
  decidable_of_iff (name ≠ [] ∧ name ≠ ['.'] ∧ name ≠ parentName ∧ '/' ∉ name)
    ⟨fun h => ⟨h.1, h.2.1, h.2.2.1, h.2.2.2⟩, fun h => ⟨h.ne_nil, h.ne_point, h.ne_parent, h.noSlash⟩⟩

/-- A place with proper names only and no link on the way to it or at it. -/
structure IsReal (d : Disk) (p : Place) : Prop where
  proper : ∀ name ∈ p, IsProper name
  noLink : ∀ q, q <+: p → ∀ goal, d.node? q ≠ some (.link goal)

theorem IsReal.of_prefix (h : IsReal d p) (hq : q <+: p) : IsReal d q :=
  ⟨fun name hname => h.proper name (hq.subset hname), fun q' hq' => h.noLink q' (hq'.trans hq)⟩

theorem isReal_nil (d : Disk) : IsReal d [] := by
  refine ⟨by simp, fun q hq goal => ?_⟩
  rw [List.prefix_nil.mp hq]
  simp [node?]

theorem IsReal.dropLast (h : IsReal d p) : IsReal d p.dropLast := h.of_prefix (List.dropLast_prefix p)

theorem IsReal.snoc (h : IsReal d p) (hname : IsProper name)
    (hnode : ∀ goal, d.node? (p ++ [name]) ≠ some (.link goal)) : IsReal d (p ++ [name]) := by
  refine ⟨fun other hother => ?_, fun q hq => ?_⟩
  · rcases List.mem_append.mp hother with hp | hlast
    · exact h.proper other hp
    · exact List.mem_singleton.mp hlast ▸ hname
  · rcases List.prefix_concat_iff.mp hq with rfl | hq
    · exact hnode
    · exact h.noLink q hq

section Settle

theorem goTo_parent (p : Place) : Route.goTo p parentName = p.dropLast := by
  rw [Route.goTo, if_pos (by simp)]

theorem goTo_of_ne (hname : name ≠ parentName) (p : Place) : Route.goTo p name = p ++ [name] := by
  rw [Route.goTo, if_neg (by simpa using hname)]

theorem placeFrom_concat (current : Place) (a : Anchor) (names : List Text) (name : Text) :
    Route.placeFrom current ⟨a, names ++ [name]⟩ =
      Route.goTo (Route.placeFrom current ⟨a, names⟩) name := List.foldl_concat ..

theorem placeFrom_child (current : Place) (r : Route) (hname : name ≠ parentName) :
    Route.placeFrom current (r.child name) = Route.placeFrom current r ++ [name] := by
  rw [Route.child, placeFrom_concat, goTo_of_ne hname]

theorem placeFrom_up (current : Place) (r : Route) :
    Route.placeFrom current r.up = (Route.placeFrom current r).dropLast := by
  obtain ⟨a, names⟩ := r
  rcases List.eq_nil_or_concat names with rfl | ⟨names, last, rfl⟩
  · cases a <;> rfl
  rw [Route.up, List.concat_eq_append, List.getLast?_concat]
  dsimp only
  split
  · rw [placeFrom_concat, goTo_parent]
  · rename_i hlast
    rw [List.dropLast_concat, placeFrom_concat, goTo_of_ne (by simpa using hlast), List.dropLast_concat]

/-- A path that goes up only at its start, and not above the root, to a real place. -/
structure IsSettled (d : Disk) (current : Place) (r : Route) : Prop where
  rising : ∃ n names, r.names = List.replicate n parentName ++ names ∧
    (∀ name ∈ names, name ≠ parentName) ∧ (r.anchor.isAbsolute = true → n = 0)
  real : IsReal d (Route.placeFrom current r)

theorem up_replicate (a : Anchor) {n : Nat} (h : a.isAbsolute = true → n = 0) :
    ∃ m, (Route.up ⟨a, List.replicate n parentName⟩).names = List.replicate m parentName ∧
      (a.isAbsolute = true → m = 0) := by
  cases n with
  | zero =>
    cases hroot : a.isAbsolute with
    | true => exact ⟨0, by simp [Route.up, hroot], fun _ => rfl⟩
    | false => exact ⟨1, by simp [Route.up, hroot], by simp⟩
  | succ n =>
    refine ⟨n + 2, ?_, fun hroot => absurd (h hroot) n.succ_ne_zero⟩
    simp [Route.up, List.getLast?_replicate, List.replicate_succ']

theorem up_anchor (r : Route) : r.up.anchor = r.anchor := by
  unfold Route.up
  split <;> split <;> rfl

theorem IsSettled.up (h : IsSettled d current r) : IsSettled d current r.up := by
  refine ⟨?_, placeFrom_up current r ▸ h.real.dropLast⟩
  rw [up_anchor]
  obtain ⟨n, names, hnames, hproper, hroot⟩ := h.rising
  obtain ⟨a, all⟩ := r
  obtain rfl : all = _ := hnames
  rcases List.eq_nil_or_concat names with rfl | ⟨names, last, rfl⟩
  · obtain ⟨m, hm, hup⟩ := up_replicate a hroot
    exact ⟨m, [], by simpa using hm, by simp, hup⟩
  · rw [List.concat_eq_append] at hproper
    refine ⟨n, names, ?_, fun name hname => hproper name (List.mem_append_left _ hname), hroot⟩
    have hlast : last ≠ parentName := hproper last (by simp)
    rw [Route.up, List.concat_eq_append, ← List.append_assoc, List.getLast?_concat]
    simp [hlast]

theorem IsSettled.child (h : IsSettled d current r) (hname : IsProper name)
    (hnode : ∀ goal, d.node? (Route.placeFrom current r ++ [name]) ≠ some (.link goal)) :
    IsSettled d current (r.child name) := by
  obtain ⟨n, names, hnames, hproper, hroot⟩ := h.rising
  refine ⟨⟨n, names ++ [name], ?_, ?_, hroot⟩, ?_⟩
  · rw [Route.child, hnames, List.append_assoc]
  · simpa [or_imp, forall_and] using ⟨hproper, hname.ne_parent⟩
  · rw [placeFrom_child current r hname.ne_parent]
    exact h.real.snoc hname hnode

theorem isSettled_root (d : Disk) (current : Place) : IsSettled d current ⟨.root, []⟩ :=
  ⟨⟨0, [], rfl, by simp, fun _ => rfl⟩, isReal_nil d⟩

theorem IsSettled.rebase (h : IsSettled d current r) (goal : Text) :
    IsSettled d current (rebase r goal) := by
  unfold Disk.rebase
  split
  · exact isSettled_root d current
  · exact h

/-- A name in a written path: one to go up by, or one of an entry. -/
def IsWritten (name : Text) : Prop := name = parentName ∨ IsProper name

/-- Whether the names to go to are names in written paths. -/
def AreWritten (errands : List Errand) : Prop := ∀ name, .go name ∈ errands → IsWritten name

theorem AreWritten.tail {e : Errand} {es : List Errand} (h : AreWritten (e :: es)) : AreWritten es :=
  fun name hname => h name (List.mem_cons_of_mem e hname)

/-- Whatever a link met so far stands for is settled. -/
def AreSettled (d : Disk) (current : Place) (links : Links) : Prop :=
  ∀ link known, (link, some known) ∈ links → IsSettled d current known

theorem AreSettled.cons {links : Links} {value : Option Route} (h : AreSettled d current links)
    (link : Route) (hvalue : ∀ known ∈ value, IsSettled d current known) :
    AreSettled d current ((link, value) :: links) := by
  intro other known hmem
  rcases List.mem_cons.mp hmem with heq | hmem
  · cases heq
    exact hvalue known rfl
  · exact h other known hmem

end Settle

end Disk

end Excerpt
