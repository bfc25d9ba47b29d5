import Excerpt.Proofs.Joining
import Excerpt.Proofs.Title

/-!
What a written line opens: a line that starts with a plain character, a heading between hashes, and a
fence.
-/

namespace Excerpt

namespace Text

theorem isBlank_of_isGap {c : Char} (h : isGap c = true) : isBlank c = true := by
  simp only [isGap, Bool.or_eq_true, beq_iff_eq] at h
  rcases h with rfl | rfl <;> decide

theorem isGap_of_not_isBlank {c : Char} (h : isBlank c = false) : isGap c = false := by
  by_contra hgap
  rw [isBlank_of_isGap (by simpa using hgap)] at h
  simp at h

/-- What a line can start a block with, blanks, digits and pipes apart. -/
def openers : Text := ['`', '~', '*', '+', '-', '#', '_', '>', '=']

/-- A character with which a line starts a paragraph or a table. -/
structure IsPlain (c : Char) : Prop where
  isBlank_eq : isBlank c = false
  isDigit_eq : isDigit c = false
  notMem : c ∉ openers

theorem isPlain_pipe : IsPlain '|' := ⟨by decide, by decide, by decide⟩

theorem isPlain_of_isAlpha {c : Char} (h : c.isAlpha = true) : IsPlain c := by
  have hcodes : ∀ n < 128, (65 ≤ n ∧ n ≤ 90) ∨ (97 ≤ n ∧ n ≤ 122) →
      isBlankCode n = false ∧ digitOfCode? n = none := by decide
  have hrange : (65 ≤ c.toNat ∧ c.toNat ≤ 90) ∨ (97 ≤ c.toNat ∧ c.toNat ≤ 122) := by
    change (decide (c.val ≥ 'A'.val ∧ c.val ≤ 'Z'.val) || (c.val ≥ 'a'.val && c.val ≤ 'z'.val)) =
      true at h
    simp only [Bool.or_eq_true, Bool.and_eq_true, decide_eq_true_eq, UInt32.le_iff_toNat_le,
      ge_iff_le] at h
    exact h
  obtain ⟨hblank, hdigit⟩ := hcodes c.toNat (by omega) hrange
  refine ⟨hblank, by simp [isDigit, digit?, hdigit], fun hmem => ?_⟩
  have hopeners : ∀ d ∈ openers, (!d.isAlpha) = true := List.all_eq_true.mp (by decide)
  simpa [h] using hopeners c hmem

end Text

namespace Text

section Plain

variable {c : Char} (hc : IsPlain c)
include hc

theorem IsPlain.ne_of_mem (d : Char) (hd : d ∈ openers) : c ≠ d := by
  rintro rfl
  exact hc.notMem hd

theorem IsPlain.ne_gap : c ≠ ' ' ∧ c ≠ '\t' := by
  have hgap := isGap_of_not_isBlank hc.isBlank_eq
  simpa [isGap] using hgap

theorem columns_plain (r : Text) : columns (c :: r) = 0 := by
  obtain ⟨hspace, htab⟩ := hc.ne_gap
  simp [columns, columnsFrom, hspace, htab]

end Plain

end Text

theorem Fence.opening?_eq_none {c : Char} (hblank : Text.isBlank c = false)
    (hmark : Fence.isMark c = false) (r : Text) : Fence.opening? (c :: r) = none := by
  simp [Fence.opening?, hblank, hmark]

section Plain

variable {c : Char} (hc : Text.IsPlain c) (r : Text)
include hc

theorem unindented?_plain : unindented? (c :: r) = some (c :: r) := by
  simp [unindented?, hc.ne_gap.1]

theorem isIndented_plain : isIndented (c :: r) = false := by
  simp [isIndented, Text.columns_plain hc]

theorem Fence.opening?_plain : Fence.opening? (c :: r) = none := by
  have hmark : Fence.isMark c = false := by
    simp [Fence.isMark, hc.ne_of_mem '`' (by decide), hc.ne_of_mem '~' (by decide)]
  exact Fence.opening?_eq_none hc.isBlank_eq hmark r

theorem Heading.hashed?_plain : Heading.hashed? (c :: r) = none := by
  simp [Heading.hashed?, unindented?_plain hc, hc.ne_of_mem '#' (by decide)]

theorem isRule_plain : isRule (c :: r) = false := by
  simp [isRule, unindented?_plain hc, hc.ne_of_mem '*' (by decide),
    hc.ne_of_mem '-' (by decide), hc.ne_of_mem '_' (by decide)]

theorem quoted?_plain : quoted? (c :: r) = none := by
  simp [quoted?, unindented?_plain hc, hc.ne_of_mem '>' (by decide)]

theorem Heading.underline?_plain : Heading.underline? (c :: r) = none := by
  simp [Heading.underline?, unindented?_plain hc, hc.ne_of_mem '=' (by decide),
    hc.ne_of_mem '-' (by decide)]

theorem Marker.read?_plain : Marker.read? (c :: r) = none := by
  have hsign : Bullet.isSign c = false := by
    simp [Bullet.isSign, hc.ne_of_mem '*' (by decide), hc.ne_of_mem '+' (by decide),
      hc.ne_of_mem '-' (by decide)]
  simp [Marker.read?, hc.ne_gap.1, Bullet.read?, hsign, hc.isDigit_eq]

end Plain

namespace Text

theorem dropColumns_zero (t : Text) : dropColumns 0 t = t := by
  unfold dropColumns dropColumnsFrom
  split <;> simp

end Text

namespace Heading

theorem dropClosing_write {t : Text} (h : ∀ c ∈ t.getLast?, Text.isGap c = false) :
    dropClosing (t ++ [' ', '#']) = t := by
  have hhash : Text.dropEndWhile (· == '#') (t ++ [' ', '#']) = t ++ [' '] := by
    rw [← List.singleton_append, ← List.append_assoc, Text.dropEndWhile_concat_of_pos (by decide),
      Text.dropEndWhile_eq_self (by simp)]
  obtain ⟨c, r, hc⟩ : ∃ c r, t ++ [' '] = c :: r := List.exists_cons_of_ne_nil (by simp)
  have hlast : (c :: r).getLast?.any Text.isGap = true := by simp [← hc, Text.isGap]
  rw [dropClosing, hhash]
  simp only [hc, hlast, if_true]
  rw [← hc, Text.dropEndWhile_concat_of_pos (by decide), Text.dropEndWhile_eq_self h]

theorem text_write {t : Text} (ht : Text.strip t = t) :
    Text.strip (dropClosing (Text.dropEndWhile Text.isGap
      ((' ' :: t ++ [' ', '#']).dropWhile Text.isGap))) = t := by
  obtain ⟨hhead, hlast⟩ := Text.strip_eq_self_iff.mp ht
  cases t with
  | nil => decide
  | cons c r =>
    have hc : Text.isGap c = false := Text.isGap_of_not_isBlank (hhead c rfl)
    have hdrop : (' ' :: (c :: r) ++ [' ', '#']).dropWhile Text.isGap = c :: r ++ [' ', '#'] := by
      rw [List.cons_append, List.dropWhile_cons_of_pos (by decide), List.cons_append,
        List.dropWhile_cons_of_neg (by simp [hc])]
    have hend : ∀ d ∈ (c :: r ++ [' ', '#']).getLast?, Text.isGap d = false := by
      intro d hd
      rw [List.getLast?_append] at hd
      obtain rfl : '#' = d := by simpa using hd
      decide
    rw [hdrop, Text.dropEndWhile_eq_self hend, dropClosing_write, ht]
    exact fun d hd => Text.isGap_of_not_isBlank (hlast d hd)

theorem hashed?_write {d : Nat} (hd : 1 ≤ d ∧ d ≤ 6) {t : Text} (ht : Text.strip t = t) :
    hashed? (List.replicate d '#' ++ (' ' :: t ++ [' ', '#'])) = some (d, t) := by
  have hhash : ∀ c ∈ List.replicate d '#', (c == '#') = true := by simp
  have hun : unindented? (List.replicate d '#' ++ (' ' :: t ++ [' ', '#'])) =
      some (List.replicate d '#' ++ (' ' :: t ++ [' ', '#'])) := by
    obtain ⟨e, rfl⟩ : ∃ e, d = e + 1 := ⟨d - 1, by omega⟩
    rfl
  have hrun : (List.replicate d '#' ++ (' ' :: t ++ [' ', '#'])).takeWhile (· == '#') =
      List.replicate d '#' := Text.takeWhile_append_stop hhash (by simp)
  have hrest : (List.replicate d '#' ++ (' ' :: t ++ [' ', '#'])).dropWhile (· == '#') =
      ' ' :: t ++ [' ', '#'] := Text.dropWhile_append_stop hhash (by simp)
  have hgap : (' ' :: t ++ [' ', '#']).head?.any Text.isGap = true := rfl
  rw [hashed?, hun]
  simp only [hrun, hrest, text_write ht, List.length_replicate, hgap, hd]
  rfl

end Heading

theorem Opening.read_of_isTitle {l : Line} (h : l.isTitle = true) {d : Nat} {t : Text}
    (hl : Heading.hashed? l.body = some (d, t)) (ls : List Line) :
    Opening.read l ls = .heading d t := by
  have hfence : Fence.opening? l.body = none := by
    obtain ⟨⟨r, hr⟩, -⟩ := Line.isTitle_iff.mp h
    rw [hr]
    exact Fence.opening?_eq_none (by decide) (by decide) r
  simp [Opening.read, Line.isBlank_of_isTitle h, hfence, Line.isIndented_of_isTitle h, hl]

namespace Fence

def ticks (n : Nat) : Fence := ⟨'`', n, 0⟩

theorem opening?_replicate {n : Nat} (hn : 3 ≤ n) :
    opening? (List.replicate n '`') = some (ticks n, []) := by
  obtain ⟨m, rfl⟩ : ∃ m, n = m + 1 := ⟨n - 1, by omega⟩
  have htick : ∀ c ∈ List.replicate (m + 1) '`', (c == '`') = true := by simp
  have hrun : (List.replicate (m + 1) '`').takeWhile (· == '`') = List.replicate (m + 1) '`' :=
    List.takeWhile_eq_self_iff.mpr htick
  have hrest : (List.replicate (m + 1) '`').dropWhile (· == '`') = [] :=
    List.dropWhile_eq_nil_iff.mpr htick
  have hlead : Text.isBlank '`' = false := by decide
  rw [List.replicate_succ] at hrun hrest ⊢
  simp [opening?, hlead, hrun, hrest, hn, isMark, onlyLine?, ticks, Text.columns, Text.columnsFrom]

theorem closedBy_replicate (n : Nat) : (ticks n).closedBy (List.replicate n '`') = true := by
  have htick : ∀ c ∈ List.replicate n '`', (c == '`') = true := by simp
  have hgap : (List.replicate n '`').dropWhile Text.isGap = List.replicate n '`' :=
    Text.dropWhile_eq_self fun c hc => by
      rw [(List.mem_replicate.mp (List.mem_of_mem_head? hc)).2]; decide
  have hcolumns : Text.columns (List.replicate n '`') = 0 := by cases n <;> rfl
  simp [closedBy, ticks, hgap, hcolumns]

theorem closedBy_eq_false {n : Nat} {line : Text}
    (h : ∀ k, List.replicate k '`' <:+: line → k < n) : (ticks n).closedBy line = false := by
  obtain ⟨k, hk⟩ : ∃ k, (line.dropWhile Text.isGap).takeWhile (· == '`') = List.replicate k '`' := by
    refine ⟨_, List.eq_replicate_iff.mpr ⟨rfl, fun c hc => ?_⟩⟩
    simpa using List.mem_takeWhile_imp hc
  have hinfix : List.replicate k '`' <:+: line := by
    rw [← hk]
    exact (List.takeWhile_prefix _).isInfix.trans (List.dropWhile_suffix _).isInfix
  have hlt := h k hinfix
  simp [closedBy, ticks, hk]
  omega

end Fence

namespace Extent

theorem fenced_of_closed {f : Fence} {xs : List Line} {l : Line}
    (hx : ∀ x ∈ xs, f.closedBy x.body = false) (hl : f.closedBy l.body = true) (ys : List Line) :
    fenced f (xs ++ l :: ys) = xs.length + 1 := by
  induction xs with
  | nil => simp [fenced, hl]
  | cons x xs ih =>
    simp [fenced, hx x (by simp), ih fun y hy => hx y (List.mem_cons_of_mem x hy)]

end Extent

end Excerpt
