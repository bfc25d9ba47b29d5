import Excerpt.Selector.Position
import Mathlib.Data.List.Infix

/-!
Positions in a list. A slice takes a run of the list, a bound cuts the list in two, and an index takes
what the slice of length one from there on takes, which is nothing where the list does not reach.
-/

namespace Excerpt

namespace Position

theorem clamp_of_neg (n : Nat) {k : Int} (h : k < 0) : clamp n k = (n + k).toNat := if_pos h

theorem clamp_of_nonneg (n : Nat) {k : Int} (h : 0 ≤ k) : clamp n k = min k.toNat n :=
  if_neg (Int.not_lt.mpr h)

variable {α : Type} (xs : List α)

theorem drop_take_succ (j : Nat) : (xs.take (j + 1)).drop j = xs[j]?.toList := by
  rw [List.drop_take, Nat.add_sub_cancel_left, List.take_one, List.head?_drop]

theorem pick_index_of_neg {k : Int} (h : k < 0) :
    pick xs (index k) = if 0 ≤ k + xs.length then xs[(k + xs.length).toNat]?.toList else [] := by
  rw [pick, if_pos h]

theorem pick_index_of_nonneg {k : Int} (h : 0 ≤ k) : pick xs (index k) = xs[k.toNat]?.toList := by
  rw [pick, if_neg (Int.not_lt.mpr h), if_pos h]

theorem pick_slice (start stop : Int) :
    pick xs (slice (some start) (some stop)) =
      (xs.take (clamp xs.length stop)).drop (clamp xs.length start) := rfl

theorem pick_slice_append (k : Int) :
    pick xs (slice none (some k)) ++ pick xs (slice (some k) none) = xs := by
  simp [pick]

theorem pick_slice_infix (start stop : Option Int) : pick xs (slice start stop) <:+: xs :=
  (List.drop_suffix _ _).isInfix.trans (List.take_prefix _ _).isInfix

theorem pick_index {k : Int} (hk : k ≠ -1) :
    pick xs (index k) = pick xs (slice (some k) (some (k + 1))) := by
  rw [pick_slice]
  by_cases hneg : k < 0
  · have hnext : k + 1 < 0 := by omega
    rw [pick_index_of_neg xs hneg, clamp_of_neg _ hneg, clamp_of_neg _ hnext]
    split
    · have hstop : (xs.length + (k + 1)).toNat = (k + xs.length).toNat + 1 := by omega
      rw [hstop, Int.add_comm (xs.length : Int) k, drop_take_succ]
    · have hstop : (xs.length + (k + 1)).toNat = 0 := by omega
      rw [hstop, List.take_zero, List.drop_nil]
  · have hpos : 0 ≤ k := Int.not_lt.mp hneg
    have hnext : (k + 1).toNat = k.toNat + 1 := by omega
    rw [pick_index_of_nonneg xs hpos, clamp_of_nonneg _ hpos, clamp_of_nonneg _ (by omega), hnext]
    by_cases hlt : k.toNat < xs.length
    · rw [Nat.min_eq_left hlt, Nat.min_eq_left (Nat.le_of_lt hlt), drop_take_succ]
    · have hle : xs.length ≤ k.toNat := Nat.not_lt.mp hlt
      have hlength : (xs.take (min (k.toNat + 1) xs.length)).length ≤ xs.length :=
        List.length_take_le' _ _
      rw [List.getElem?_eq_none hle, Nat.min_eq_right hle, List.drop_of_length_le hlength]
      rfl

/-- Behind the last index no bound can be written, so the slice from it on is open. -/
theorem pick_last : pick xs (index (-1)) = pick xs (slice (some (-1)) none) := by
  have hslice : pick xs (slice (some (-1)) none) =
      (xs.take xs.length).drop (clamp xs.length (-1)) := rfl
  rw [hslice, pick_index_of_neg xs (by decide), clamp_of_neg _ (by decide)]
  split
  · have hlast : xs.length = (-1 + (xs.length : Int)).toNat + 1 := by omega
    rw [← drop_take_succ, ← hlast, Int.add_comm]
  · have hnil : xs.length = 0 := by omega
    rw [List.length_eq_zero_iff.mp hnil]
    rfl

theorem pick?_infix (p : Option Position) : pick? p xs <:+: xs := by
  cases p with
  | none => exact List.infix_refl xs
  | some p =>
    cases p with
    | slice start stop => exact pick_slice_infix xs start stop
    | index k =>
      by_cases hk : k = -1
      · rw [pick?, hk, pick_last]
        exact pick_slice_infix xs _ _
      · rw [pick?, pick_index xs hk]
        exact pick_slice_infix xs _ _

/-- A bound cuts a list in two, an index is a slice, and no position repeats, reorders or invents
anything. -/
theorem pick_cuts (k : Int) :
    pick xs (slice none (some k)) ++ pick xs (slice (some k) none) = xs ∧
      pick xs (index k) =
        pick xs (if k = -1 then slice (some (-1)) none else slice (some k) (some (k + 1))) ∧
      ∀ p : Option Position, pick? p xs <:+: xs := by
  refine ⟨pick_slice_append xs k, ?_, pick?_infix xs⟩
  split
  · rename_i hk
    rw [hk, pick_last]
  · rename_i hk
    exact pick_index xs hk

end Position

end Excerpt
