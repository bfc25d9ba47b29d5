import Excerpt.Text.Case
import Mathlib

/-!
Upper case is kept by going to upper case again: no character that some character has in its upper
case has another upper case itself.
-/

namespace Excerpt.Text

-- the tables are compared by `Nat.blt`, which the kernel computes at once

/-- Whether rows leave all code points between two ones as they are. If `sparse`, only every other
one counts, from the first one on. -/
def areLeft (sparse : Bool) (lo hi : Nat) : List CaseRow → Bool
  | [] => true
  | r :: rows =>
    Nat.blt hi r.first ||
      (Nat.blt r.last lo || sparse && r.step == 2 && lo % 2 != r.first % 2) &&
        areLeft sparse lo hi rows

/-- Whether no code point between two ones has an entry. -/
def areUnlisted (lo hi : Nat) : List (Nat × List Nat) → Bool
  | [] => true
  | e :: entries => Nat.blt hi e.1 || Nat.blt e.1 lo && areUnlisted lo hi entries

theorem shifted_of_areLeft {sparse : Bool} {lo hi n : Nat} {rows : List CaseRow}
    (h : areLeft sparse lo hi rows = true) (hlo : lo ≤ n) (hhi : n ≤ hi)
    (hsparse : sparse = true → n % 2 = lo % 2) : shifted rows n = n := by
  induction rows with
  | nil => rfl
  | cons r rows ih =>
    simp only [areLeft, Bool.or_eq_true, Bool.and_eq_true, Nat.blt_eq, beq_iff_eq, bne_iff_ne] at h
    rw [shifted]
    split
    · rfl
    rename_i hfirst
    obtain ⟨hout, hrest⟩ := h.resolve_left (by omega)
    rw [if_neg, ih hrest]
    rw [CaseRow.covers, Bool.and_eq_true, Bool.and_eq_true, decide_eq_true_eq, decide_eq_true_eq,
      beq_iff_eq]
    rintro ⟨⟨-, hlast⟩, hstep⟩
    rcases hout with hbelow | ⟨⟨heven, htwo⟩, hodd⟩
    · omega
    · have hparity := hsparse heven
      rw [htwo] at hstep
      omega

theorem entryOf_of_areUnlisted {lo hi n : Nat} {entries : List (Nat × List Nat)}
    (h : areUnlisted lo hi entries = true) (hlo : lo ≤ n) (hhi : n ≤ hi) :
    entryOf entries n = [] := by
  induction entries with
  | nil => rfl
  | cons e entries ih =>
    simp only [areUnlisted, Bool.or_eq_true, Bool.and_eq_true, Nat.blt_eq] at h
    rw [entryOf]
    split
    · rfl
    obtain ⟨hout, hrest⟩ := h.resolve_left (by omega)
    rw [if_neg (by rw [beq_iff_eq]; omega), ih hrest]

theorem shifted_eq (rows : List CaseRow) (n : Nat) :
    shifted rows n = n ∨
      ∃ r ∈ rows, r.covers n = true ∧ shifted rows n = (n + r.shift).toNat := by
  induction rows with
  | nil => exact Or.inl rfl
  | cons r rows ih =>
    rw [shifted]
    split
    · exact Or.inl rfl
    split
    · rename_i hcovers
      exact Or.inr ⟨r, List.mem_cons_self, hcovers, rfl⟩
    · rcases ih with h | ⟨s, hs, h⟩
      · exact Or.inl h
      · exact Or.inr ⟨s, List.mem_cons_of_mem r hs, h⟩

theorem mem_of_entryOf {entries : List (Nat × List Nat)} {n : Nat} (h : entryOf entries n ≠ []) :
    (n, entryOf entries n) ∈ entries := by
  induction entries with
  | nil => exact absurd rfl h
  | cons e entries ih =>
    rw [entryOf] at h ⊢
    split at h
    · exact absurd rfl h
    rename_i hlt
    rw [if_neg hlt]
    split at h
    · rename_i heq
      rw [if_pos heq, beq_iff_eq.mp heq]
      exact List.mem_cons_self
    · rename_i hne
      rw [if_neg hne]
      exact List.mem_cons_of_mem e (ih h)

/-- Whether the code points that a row gives are one or stand two apart. -/
def CaseRow.isSparse (r : CaseRow) : Bool := r.step == 2 || r.first == r.last

theorem areLeft_upperRows : ∀ r ∈ upperRows,
    areLeft r.isSparse (r.first + r.shift).toNat (r.last + r.shift).toNat upperRows = true := by
  decide +kernel

theorem areUnlisted_upperRows : ∀ r ∈ upperRows,
    areUnlisted (r.first + r.shift).toNat (r.last + r.shift).toNat longUppers = true := by
  decide +kernel

theorem zero_le_upperRows : ∀ r ∈ upperRows, 0 ≤ r.first + r.shift := by decide +kernel

theorem upperCodes_longUppers : ∀ e ∈ longUppers, ∀ m ∈ e.2, upperCodes m = [m] := by
  decide +kernel

theorem upperCodes_of_covers {r : CaseRow} (hr : r ∈ upperRows) {n : Nat}
    (h : r.covers n = true) : upperCodes (n + r.shift).toNat = [(n + r.shift).toNat] := by
  have hpositive := zero_le_upperRows r hr
  simp only [CaseRow.covers, Bool.and_eq_true, decide_eq_true_eq, beq_iff_eq] at h
  obtain ⟨⟨hfirst, hlast⟩, hstep⟩ := h
  have hlo : (r.first + r.shift).toNat ≤ (n + r.shift).toNat := by omega
  have hhi : (n + r.shift).toNat ≤ (r.last + r.shift).toNat := by omega
  have hsparse : r.isSparse = true → (n + r.shift).toNat % 2 = (r.first + r.shift).toNat % 2 := by
    intro h
    rw [CaseRow.isSparse, Bool.or_eq_true, beq_iff_eq, beq_iff_eq] at h
    rcases h with h | h
    · rw [h] at hstep
      omega
    · omega
  rw [upperCodes, entryOf_of_areUnlisted (areUnlisted_upperRows r hr) hlo hhi,
    shifted_of_areLeft (areLeft_upperRows r hr) hlo hhi hsparse]

theorem upperCodes_of_mem {n m : Nat} (h : m ∈ upperCodes n) : upperCodes m = [m] := by
  unfold upperCodes at h
  split at h
  · rename_i hshort
    obtain rfl : m = shifted upperRows n := by simpa using h
    rcases shifted_eq upperRows n with hn | ⟨r, hr, hcovers, hn⟩
    · rw [hn, upperCodes, hshort, hn]
    · rw [hn, upperCodes_of_covers hr hcovers]
  · rename_i hlong
    exact upperCodes_longUppers _ (mem_of_entryOf hlong) m h

theorem upper_upper (t : Text) : t.upper.upper = t.upper := by
  have hstays : ∀ c ∈ t.upper, (upperCodes c.toNat).map Char.ofNat = [c] := by
    intro c hc
    obtain ⟨d, -, hd⟩ := List.mem_flatMap.mp hc
    obtain ⟨m, hm, rfl⟩ := List.mem_map.mp hd
    -- a code point that is none of a character stands for the null character
    by_cases hvalid : m.isValidChar
    · rw [Char.toNat_ofNat, if_pos hvalid, upperCodes_of_mem hm]
      rfl
    · have hnull : Char.ofNat m = Char.ofNat 0 := by
        rw [Char.ofNat, dif_neg hvalid]
        rfl
      rw [hnull]
      rfl
  rw [upper, List.flatMap_congr hstays]
  simp

end Excerpt.Text
