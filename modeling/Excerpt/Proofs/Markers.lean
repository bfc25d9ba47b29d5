import Excerpt.Markdown.Marker
import Mathlib.Algebra.Group.Nat.Defs
import Mathlib.Data.List.Induction
import Mathlib.Data.List.TakeWhile

/-!
Markers of list items. What a line says that starts with a marker, and what follows for the width, the
number and the content of the marker.
-/

namespace Excerpt

theorem Text.digit?_le {c : Char} {d : Nat} (h : digit? c = some d) : d ≤ 9 := by
  obtain ⟨z, hz, rfl⟩ := Option.map_eq_some_iff.mp h
  have hrange := List.find?_some hz
  simp only [Bool.and_eq_true, decide_eq_true_eq] at hrange
  omega

theorem Numeral.valueOf_concat (t : Text) (c : Char) :
    valueOf (t ++ [c]) = 10 * valueOf t + (Text.digit? c).getD 0 := by
  simp [valueOf]

theorem Numeral.valueOf_lt (digits : Text) : valueOf digits < 10 ^ digits.length := by
  induction digits using List.reverseRecOn with
  | nil => decide
  | append_singleton t c ih =>
    have hdigit : (Text.digit? c).getD 0 ≤ 9 := by
      cases hd : Text.digit? c with
      | none => exact Nat.zero_le 9
      | some d => exact Text.digit?_le hd
    rw [valueOf_concat, List.length_append, List.length_singleton, Nat.pow_succ]
    omega

/-- A bullet is a sign, or up to nine digits and a delimiter. -/
theorem Bullet.read?_eq_some {t r : Text} {b : Bullet} {width : Nat}
    (h : read? t = some (b, width, r)) :
    (∃ c, isSign c = true ∧ t = c :: r ∧ b = sign c ∧ width = 1) ∨
      ∃ digits d, t = digits ++ d :: r ∧ (∀ c ∈ digits, Text.isDigit c = true) ∧
        (1 ≤ digits.length ∧ digits.length ≤ 9) ∧ isDelimiter d = true ∧
        b = number (Numeral.valueOf digits) d ∧ width = digits.length + 1 := by
  unfold read? at h
  dsimp only at h
  split at h
  · contradiction
  · rename_i c u
    split at h
    · rename_i hsign
      obtain ⟨rfl, rfl, rfl⟩ : sign c = b ∧ 1 = width ∧ u = r := by simpa using h
      exact .inl ⟨c, hsign, rfl, rfl, rfl⟩
    · split at h
      · rename_i hlength
        simp only [Bool.and_eq_true, decide_eq_true_eq] at hlength
        split at h
        · contradiction
        · rename_i d v hdrop
          split at h
          · rename_i hdelimiter
            obtain ⟨rfl, rfl, rfl⟩ : number (Numeral.valueOf _) d = b ∧ _ = width ∧ v = r := by
              simpa using h
            refine .inr ⟨(c :: u).takeWhile Text.isDigit, d, ?_, fun x hx => ?_, hlength,
              hdelimiter, rfl, rfl⟩
            · rw [← hdrop, List.takeWhile_append_dropWhile]
            · exact List.mem_takeWhile_imp hx
          · contradiction
      · contradiction

theorem Bullet.width_pos {t r : Text} {b : Bullet} {width : Nat}
    (h : Bullet.read? t = some (b, width, r)) : 0 < width := by
  obtain ⟨c, -, -, -, rfl⟩ | ⟨digits, d, -, -, -, -, -, rfl⟩ := read?_eq_some h
  · exact Nat.one_pos
  · exact Nat.succ_pos _

/-- A number has at most nine digits. -/
theorem Bullet.number_le {t r : Text} {b : Bullet} {width : Nat}
    (h : Bullet.read? t = some (b, width, r)) : ∀ n ∈ b.number?, n ≤ 999999999 := by
  intro n hn
  obtain ⟨c, -, -, rfl, -⟩ | ⟨digits, d, -, -, ⟨-, hlength⟩, -, rfl, -⟩ := read?_eq_some h
  · cases hn
  · obtain rfl : Numeral.valueOf digits = n := Option.some.inj hn
    apply Nat.le_of_lt_succ
    calc Numeral.valueOf digits < 10 ^ digits.length := Numeral.valueOf_lt digits
      _ ≤ 10 ^ 9 := Nat.pow_le_pow_right (by decide) hlength

/-- A marker is a bullet behind at most three spaces, and its content stands behind a gap. -/
theorem Marker.read?_eq_some {line : Text} {m : Marker} (h : read? line = some m) :
    ∃ r, Bullet.read? (line.dropWhile (· == ' ')) = some (m.bullet, m.width, r) ∧
      m.indent = (line.takeWhile (· == ' ')).length ∧ m.indent ≤ 3 ∧
      m.gap = (r.takeWhile Text.isGap).length ∧ (m.gap = 0 → r = []) ∧
      m.content = r.dropWhile Text.isGap := by
  unfold read? at h
  dsimp only at h
  split at h
  · rename_i hindent
    split at h
    · contradiction
    · rename_i b width r hbullet
      split at h
      · contradiction
      · rename_i hgap
        cases h
        refine ⟨r, hbullet, rfl, hindent, rfl, fun hzero => ?_, rfl⟩
        have hnone : (r.takeWhile Text.isGap).length = 0 := hzero
        rw [hnone] at hgap
        simpa using hgap
  · contradiction

theorem Marker.contentIndent_pos {line : Text} {m : Marker} (h : Marker.read? line = some m) :
    0 < m.contentIndent := by
  obtain ⟨r, hbullet, -⟩ := read?_eq_some h
  have hwidth : 0 < m.width := Bullet.width_pos hbullet
  simp only [Marker.contentIndent]
  split <;> omega

theorem Marker.number_le {line : Text} {m : Marker} (h : Marker.read? line = some m) :
    ∀ n ∈ m.bullet.number?, n ≤ 999999999 := by
  obtain ⟨r, hbullet, -⟩ := read?_eq_some h
  exact Bullet.number_le hbullet

end Excerpt
