import Excerpt.Selector.Position
import Excerpt.Proofs.Joining
import Mathlib.Data.List.Basic

/-!
Positions as written. An index or a slice is written with its integers in decimal notation and reads
back as the same position; a text that is neither an index nor a slice reads as no position.
-/

namespace Excerpt

namespace Text

theorem digit?_of_isDigit {c : Char} (h : c.isDigit = true) :
    digit? c = some (c.toNat - '0'.toNat) := by
  have hcodes : ∀ n < 58, 48 ≤ n → digitOfCode? n = some (n - 48) := by decide
  have hrange : 48 ≤ c.toNat ∧ c.toNat ≤ 57 := by
    simp only [Char.isDigit, Bool.and_eq_true, decide_eq_true_eq, UInt32.le_iff_toNat_le,
      ge_iff_le] at h
    exact h
  exact hcodes c.toNat (by omega) hrange.1

theorem isDigit_of_isDigit {c : Char} (h : c.isDigit = true) : isDigit c = true := by
  simp [isDigit, digit?_of_isDigit h]

end Text

namespace Numeral

def write (i : Int) : Text := i.repr.toList

def IsShort (i : Int) : Prop := (Nat.toDigits 10 i.natAbs).length ≤ digitLimit

instance : DecidablePred IsShort := fun _ => inferInstanceAs (Decidable (_ ≤ _))

theorem write_eq (i : Int) :
    write i = (if i < 0 then ['-'] else []) ++ Nat.toDigits 10 i.natAbs := by
  cases i with
  | ofNat n => simp [write, Int.repr, Nat.toList_repr]
  | negSucc n => simp [write, Int.repr, Nat.toList_repr]

theorem isDigit_of_mem_toDigits {n : Nat} {c : Char} (h : c ∈ Nat.toDigits 10 n) :
    Text.isDigit c = true :=
  Text.isDigit_of_isDigit (Nat.isDigit_of_mem_toDigits (by decide) (by decide) h)

theorem valueOf_toDigits (n : Nat) : valueOf (Nat.toDigits 10 n) = n := by
  have hstep : ∀ m, ∀ c ∈ Nat.toDigits 10 n,
      10 * m + (Text.digit? c).getD 0 = 10 * m + (c.toNat - '0'.toNat) := by
    intro m c hc
    rw [Text.digit?_of_isDigit (Nat.isDigit_of_mem_toDigits (by decide) (by decide) hc)]
    rfl
  calc valueOf (Nat.toDigits 10 n) = Nat.ofDigitChars 10 (Nat.toDigits 10 n) 0 :=
        List.foldl_ext _ _ _ hstep
    _ = n := Nat.ofDigitChars_toDigits (by decide) (by decide)

theorem readSign_of_isDigit {t : Text} (h : ∀ c ∈ t.head?, Text.isDigit c = true) :
    readSign t = (false, t) := by
  cases t with
  | nil => rfl
  | cons c r =>
    have hplus := Text.ne_of_class (h c rfl) (d := '+') (by decide)
    have hminus := Text.ne_of_class (h c rfl) (d := '-') (by decide)
    simp [readSign, hplus, hminus]

theorem readSign_append {sign digits : Text} (hsign : sign ∈ [[], ['+'], ['-']])
    (hdigits : ∀ c ∈ digits, Text.isDigit c = true) : (readSign (sign ++ digits)).2 = digits := by
  simp only [List.mem_cons, List.not_mem_nil, or_false] at hsign
  rcases hsign with rfl | rfl | rfl
  · rw [List.nil_append, readSign_of_isDigit fun c hc => hdigits c (List.mem_of_mem_head? hc)]
  · rfl
  · rfl

theorem readSign_write (i : Int) :
    readSign (write i) = (decide (i < 0), Nat.toDigits 10 i.natAbs) := by
  rw [write_eq]
  split
  · rename_i hi
    simp [readSign, hi]
  · rename_i hi
    rw [List.nil_append, readSign_of_isDigit, decide_eq_false hi]
    exact fun c hc => isDigit_of_mem_toDigits (List.mem_of_mem_head? hc)

theorem intOf_write {i : Int} (h : IsShort i) : intOf (write i) = .ok i := by
  have hsigned : signed (decide (i < 0)) i.natAbs = i := by
    by_cases hi : i < 0
    · rw [decide_eq_true hi, signed, if_pos rfl]
      omega
    · rw [decide_eq_false hi, signed, if_neg Bool.false_ne_true]
      omega
  have hnat : natOf (Nat.toDigits 10 i.natAbs) = .ok i.natAbs := by
    rw [natOf, if_pos (show (Nat.toDigits 10 i.natAbs).length ≤ digitLimit from h), valueOf_toDigits]
  simp only [intOf, readSign_write, hnat, hsigned]

/-- A sign, if there is one, and digits. -/
def IsInteger (t : Text) : Prop :=
  ∃ sign digits, sign ∈ [[], ['+'], ['-']] ∧ digits ≠ [] ∧
    (∀ c ∈ digits, Text.isDigit c = true) ∧ t = sign ++ digits

theorem IsInteger.ne_nil {t : Text} (h : IsInteger t) : t ≠ [] := by
  obtain ⟨sign, digits, -, hne, -, rfl⟩ := h
  simp [hne]

theorem IsInteger.notMem {t : Text} (h : IsInteger t) {c : Char} (hc : Text.isDigit c = false)
    (hsign : c ∉ ['+', '-']) : c ∉ t := by
  obtain ⟨sign, digits, hsigns, -, hdigits, rfl⟩ := h
  intro hmem
  rcases List.mem_append.mp hmem with hmem | hmem
  · have hsub : ∀ s ∈ [[], ['+'], ['-']], s ⊆ ['+', '-'] := by simp
    exact hsign (hsub sign hsigns hmem)
  · rw [hdigits c hmem] at hc
    contradiction

theorem isInteger_write (i : Int) : IsInteger (write i) := by
  refine ⟨if i < 0 then ['-'] else [], Nat.toDigits 10 i.natAbs, ?_, Nat.toDigits_ne_nil,
    fun c hc => isDigit_of_mem_toDigits hc, write_eq i⟩
  split <;> simp

end Numeral

namespace Position

open Numeral

/-- A bound of a slice: an integer, or nothing. -/
def IsBound (t : Text) : Prop := t = [] ∨ IsInteger t

def IsSlice (t : Text) : Prop := ∃ a b, IsBound a ∧ IsBound b ∧ t = a ++ ':' :: b

/-- What brackets take for a position, perhaps with a line feed behind it. -/
def IsPosition (body : Text) : Prop :=
  ∃ t, (IsInteger t ∨ IsSlice t) ∧ (body = t ∨ body = t ++ ['\n'])

theorem isNumeral_iff {t : Text} : isNumeral t = true ↔ IsInteger t := by
  constructor
  · intro h
    have hdigits : (readSign t).2 ≠ [] ∧ ∀ c ∈ (readSign t).2, Text.isDigit c = true := by
      simpa [isNumeral] using h
    unfold readSign at hdigits
    split at hdigits
    · exact ⟨['+'], _, by simp, hdigits.1, hdigits.2, rfl⟩
    · exact ⟨['-'], _, by simp, hdigits.1, hdigits.2, rfl⟩
    · exact ⟨[], _, by simp, hdigits.1, hdigits.2, rfl⟩
  · rintro ⟨sign, digits, hsign, hne, hdigits, rfl⟩
    simpa [isNumeral, readSign_append hsign hdigits, hne] using hdigits

theorem isBound_iff {t : Text} : (t.isEmpty || isNumeral t) = true ↔ IsBound t := by
  rw [Bool.or_eq_true, List.isEmpty_iff, isNumeral_iff, IsBound]

theorem IsBound.notMem {t : Text} (h : IsBound t) {c : Char} (hc : Text.isDigit c = false)
    (hsign : c ∉ ['+', '-']) : c ∉ t := by
  rcases h with rfl | h
  · simp
  · exact h.notMem hc hsign

theorem isNumeral_slice (a b : Text) : isNumeral (a ++ ':' :: b) = false := by
  by_contra hnumeral
  have hint := isNumeral_iff.mp (Bool.not_eq_false _ |>.mp hnumeral)
  exact hint.notMem (c := ':') (by decide) (by decide) (by simp)

theorem cut_of_notMem {t : Text} (h : '\n' ∉ t) :
    (if t.getLast? == some '\n' then t.dropLast else t) = t := by
  rw [if_neg]
  intro hlast
  exact h (List.mem_of_getLast? (by simpa using hlast))

theorem read?_feed {t : Text} (h : '\n' ∉ t) : read? (t ++ ['\n']) = read? t := by
  have hcut : (if (t ++ ['\n']).getLast? == some '\n' then (t ++ ['\n']).dropLast
      else t ++ ['\n']) = t := by simp
  rw [read?, read?, hcut, cut_of_notMem h]

theorem read?_integer {t : Text} (h : IsInteger t) :
    read? t = (intOf t).map fun i => some (index i) := by
  rw [read?, cut_of_notMem (h.notMem (by decide) (by decide))]
  simp only [isNumeral_iff.mpr h, if_true]

theorem feed_notMem {t : Text} (h : IsInteger t ∨ IsSlice t) : '\n' ∉ t := by
  rcases h with h | ⟨a, b, ha, hb, rfl⟩
  · exact h.notMem (by decide) (by decide)
  · have ha' : '\n' ∉ a := ha.notMem (by decide) (by decide)
    have hb' : '\n' ∉ b := hb.notMem (by decide) (by decide)
    simp [ha', hb']

theorem read?_slice {a b : Text} (ha : IsBound a) (hb : IsBound b) :
    read? (a ++ ':' :: b) = do
      let start ← bound? a
      let stop ← bound? b
      return some (slice start stop) := by
  have hfeed : '\n' ∉ a ++ ':' :: b := feed_notMem (.inr ⟨a, b, ha, hb, rfl⟩)
  have hbefore : ∀ c ∈ a, (c != ':') = true :=
    Text.forall_bne_of_notMem (ha.notMem (by decide) (by decide))
  have hfirst : (a ++ ':' :: b).takeWhile (· != ':') = a :=
    Text.takeWhile_append_stop hbefore (by simp)
  have hrest : (a ++ ':' :: b).dropWhile (· != ':') = ':' :: b :=
    Text.dropWhile_append_stop hbefore (by simp)
  rw [read?, cut_of_notMem hfeed]
  simp only [isNumeral_slice, Bool.false_eq_true, if_false, hfirst, hrest, isBound_iff.mpr ha,
    isBound_iff.mpr hb, Bool.and_self, if_true]

theorem exists_intOf {t : Text} (h : t.length ≤ digitLimit) : ∃ i, intOf t = .ok i := by
  have hlength : (readSign t).2.length ≤ t.length := by
    unfold readSign
    split <;> simp
  rw [intOf, natOf, if_pos (Nat.le_trans hlength h)]
  exact ⟨_, rfl⟩

theorem exists_bound? {t : Text} (h : t.length ≤ digitLimit) : ∃ i, bound? t = .ok i := by
  rw [bound?]
  split
  · exact ⟨none, rfl⟩
  · obtain ⟨i, hi⟩ := exists_intOf h
    exact ⟨some i, by rw [hi]; rfl⟩

/-- The line feed behind a position does not count. -/
theorem IsPosition.exists_read?_eq {body : Text} (h : IsPosition body) :
    ∃ t, (IsInteger t ∨ IsSlice t) ∧ t.length ≤ body.length ∧ read? body = read? t := by
  obtain ⟨t, ht, rfl | rfl⟩ := h
  · exact ⟨body, ht, Nat.le_refl _, rfl⟩
  · exact ⟨t, ht, by simp, read?_feed (feed_notMem ht)⟩

theorem IsPosition.read?_ne {body : Text} (h : IsPosition body) : read? body ≠ .ok none := by
  obtain ⟨t, ht, -, hread⟩ := h.exists_read?_eq
  rw [hread]
  rcases ht with ht | ⟨a, b, ha, hb, rfl⟩
  · rw [read?_integer ht]
    cases intOf t <;> simp [Except.map]
  · rw [read?_slice ha hb]
    cases bound? a <;> cases bound? b <;> simp [bind, Except.bind, pure, Except.pure]

theorem read?_of_not_isPosition {body : Text} (h : ¬ IsPosition body) : read? body = .ok none := by
  rw [read?]
  generalize ht : (if body.getLast? == some '\n' then body.dropLast else body) = t
  have hbody : body = t ∨ body = t ++ ['\n'] := by
    split at ht
    · rename_i hlast
      obtain ⟨u, rfl⟩ := List.getLast?_eq_some_iff.mp (by simpa using hlast)
      exact Or.inr (by simpa using ht)
    · exact Or.inl ht
  have hint : isNumeral t = false := by
    by_contra hnumeral
    exact h ⟨t, .inl (isNumeral_iff.mp (Bool.not_eq_false _ |>.mp hnumeral)), hbody⟩
  rw [hint]
  split
  · contradiction
  · split
    · rename_i last hlast
      split
      · rename_i hparts
        obtain ⟨hfirst, hlast'⟩ := Bool.and_eq_true_iff.mp hparts
        have hjoin := List.takeWhile_append_dropWhile (p := (· != ':')) (l := t)
        rw [hlast] at hjoin
        have hslice : IsSlice t := ⟨_, last, isBound_iff.mp hfirst, isBound_iff.mp hlast', hjoin.symm⟩
        exact absurd ⟨t, .inr hslice, hbody⟩ h
      · rfl
    · rfl

/-- Brackets are passed over if and only if they hold no position. -/
theorem read?_eq_none_iff {body : Text} : read? body = .ok none ↔ ¬ IsPosition body :=
  ⟨fun h hbody => hbody.read?_ne h, read?_of_not_isPosition⟩

instance : DecidablePred IsPosition := fun _ =>
  decidable_of_iff' (¬ read? _ = .ok none) (by rw [read?_eq_none_iff, not_not])

/-- Only a numeral that is too long makes brackets fail. -/
theorem exists_read? {body : Text} (h : body.length ≤ digitLimit) : ∃ p, read? body = .ok p := by
  by_cases hbody : IsPosition body
  · obtain ⟨t, ht, hlength, hread⟩ := hbody.exists_read?_eq
    rw [hread]
    rcases ht with ht | ⟨a, b, ha, hb, rfl⟩
    · obtain ⟨i, hi⟩ := exists_intOf (Nat.le_trans hlength h)
      rw [read?_integer ht, hi]
      exact ⟨_, rfl⟩
    · rw [List.length_append, List.length_cons] at hlength
      obtain ⟨i, hi⟩ := exists_bound? (t := a) (by omega)
      obtain ⟨j, hj⟩ := exists_bound? (t := b) (by omega)
      rw [read?_slice ha hb, hi, hj]
      exact ⟨_, rfl⟩
  · exact ⟨none, read?_of_not_isPosition hbody⟩

def writeBound : Option Int → Text
  | none => []
  | some i => Numeral.write i

def write : Position → Text
  | index i => Numeral.write i
  | slice start stop => writeBound start ++ ':' :: writeBound stop

def IsShort : Position → Prop
  | index i => Numeral.IsShort i
  | slice start stop => (∀ i ∈ start, Numeral.IsShort i) ∧ ∀ i ∈ stop, Numeral.IsShort i

theorem isBound_writeBound (i : Option Int) : IsBound (writeBound i) := by
  cases i with
  | none => exact .inl rfl
  | some i => exact .inr (isInteger_write i)

theorem bound?_writeBound {i : Option Int} (h : ∀ j ∈ i, Numeral.IsShort j) :
    bound? (writeBound i) = .ok i := by
  cases i with
  | none => rfl
  | some i =>
    have hne := (isInteger_write i).ne_nil
    simp [writeBound, bound?, hne, intOf_write (h i rfl), Except.map]

theorem notMem_write {c : Char} (hc : Text.isDigit c = false) (hsign : c ∉ ['+', '-'])
    (hcolon : c ≠ ':') (p : Position) : c ∉ p.write := by
  cases p with
  | index i => exact (isInteger_write i).notMem hc hsign
  | slice start stop =>
    simp [write, (isBound_writeBound _).notMem hc hsign, hcolon]

theorem read?_write {p : Position} (h : p.IsShort) : read? p.write = .ok (some p) := by
  cases p with
  | index i =>
    rw [write, read?_integer (isInteger_write i), intOf_write h]
    rfl
  | slice start stop =>
    rw [write, read?_slice (isBound_writeBound start) (isBound_writeBound stop), bound?_writeBound h.1,
      bound?_writeBound h.2]
    rfl

end Position

end Excerpt
