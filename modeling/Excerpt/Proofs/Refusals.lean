import Excerpt.Proofs.Numerals
import Excerpt.Selector.Segment

/-!
Selectors that are refused. A selector is read if all of its segments are; else the first segment that
is not gives the fault: its pattern, or the first of its brackets with an integer that is too long.
-/

namespace Excerpt

inductive First {α : Type} (P : α → Prop) : List α → α → Prop
  | here {x : α} (xs : List α) (hx : P x) : First P (x :: xs) x
  | there {x y : α} {xs : List α} (hy : ¬ P y) (h : First P xs x) : First P (y :: xs) x

section First

variable {α : Type} {P : α → Prop} {x y : α} {xs : List α}

theorem not_first_nil : ¬ First P [] x := nofun

theorem first_cons_of_pos (hy : P y) : First P (y :: xs) x ↔ x = y := by
  constructor
  · rintro (_ | ⟨hy', -⟩)
    · rfl
    · contradiction
  · rintro rfl
    exact .here xs hy

theorem first_cons_of_neg (hy : ¬ P y) : First P (y :: xs) x ↔ First P xs x := by
  constructor
  · rintro (hy' | ⟨-, h⟩)
    · contradiction
    · exact h
  · exact .there hy

theorem exists_first (h : ∃ x ∈ xs, P x) : ∃ x, First P xs x := by
  induction xs with
  | nil => simp at h
  | cons y xs ih =>
    by_cases hy : P y
    · exact ⟨y, .here xs hy⟩
    · obtain ⟨x, hx⟩ := ih (by simpa [hy] using h)
      exact ⟨x, .there hy hx⟩

theorem First.mem (h : First P xs x) : x ∈ xs ∧ P x := by
  induction h with
  | here xs hx => exact ⟨List.mem_cons_self, hx⟩
  | there _ _ ih => exact ⟨List.mem_cons_of_mem _ ih.1, ih.2⟩

end First

namespace Numeral

/-- An integer with `n` digits, which are too many. -/
def IsLong (n : Nat) (t : Text) : Prop :=
  digitLimit < n ∧ ∃ sign digits, sign ∈ [[], ['+'], ['-']] ∧ digits.length = n ∧
    (∀ c ∈ digits, Text.isDigit c = true) ∧ t = sign ++ digits

theorem IsLong.ne_nil {n : Nat} {digits : Text} (h : digitLimit < n) (hlength : digits.length = n) :
    digits ≠ [] := by
  rintro rfl
  simp [← hlength] at h

theorem IsLong.isInteger {n : Nat} {t : Text} (h : IsLong n t) : IsInteger t := by
  obtain ⟨hlimit, sign, digits, hsign, hlength, hdigits, rfl⟩ := h
  exact ⟨sign, digits, hsign, IsLong.ne_nil hlimit hlength, hdigits, rfl⟩

theorem IsLong.lt_length {n : Nat} {t : Text} (h : IsLong n t) : digitLimit < t.length := by
  obtain ⟨hlimit, sign, digits, -, hlength, -, rfl⟩ := h
  rw [List.length_append]
  omega

theorem intOf_eq_error_iff {t : Text} (h : IsInteger t) {e : TooManyDigits} :
    intOf t = .error e ↔ IsLong e.count t := by
  obtain ⟨n⟩ := e
  constructor
  · intro he
    obtain ⟨sign, digits, hsign, hne, hdigits, rfl⟩ := h
    rw [intOf, readSign_append hsign hdigits, natOf] at he
    by_cases hlength : digits.length ≤ digitLimit
    · simp [hlength] at he
    · obtain rfl : digits.length = n := by simpa [hlength] using he
      exact ⟨Nat.lt_of_not_le hlength, sign, digits, hsign, rfl, hdigits, rfl⟩
  · rintro ⟨hlimit, sign, digits, hsign, rfl, hdigits, rfl⟩
    rw [intOf, readSign_append hsign hdigits, natOf, if_neg (Nat.not_le_of_lt hlimit)]

end Numeral

namespace Position

open Numeral (IsInteger)

/-- A position with an integer of `n` digits, which are too many. Of the bounds of a slice the first
that is too long counts. -/
def IsLong (n : Nat) (body : Text) : Prop :=
  ∃ t, (body = t ∨ body = t ++ ['\n']) ∧ (Numeral.IsLong n t ∨ ∃ a b, t = a ++ ':' :: b ∧
    IsBound a ∧ IsBound b ∧
      (Numeral.IsLong n a ∨ (∀ k, ¬ Numeral.IsLong k a) ∧ Numeral.IsLong n b))

theorem IsLong.lt_length {n : Nat} {body : Text} (h : IsLong n body) :
    Numeral.digitLimit < body.length := by
  have hpart {t : Text} (ht : Numeral.digitLimit < t.length) (hle : t.length ≤ body.length) :=
    Nat.lt_of_lt_of_le ht hle
  obtain ⟨t, hbody, ht⟩ := h
  have hle : t.length ≤ body.length := by rcases hbody with rfl | rfl <;> simp
  rcases ht with ht | ⟨a, b, rfl, -, -, hab⟩
  · exact hpart ht.lt_length hle
  · rw [List.length_append, List.length_cons] at hle
    rcases hab with ha | ⟨-, hb⟩
    · exact hpart ha.lt_length (by omega)
    · exact hpart hb.lt_length (by omega)

theorem bound?_eq_error_iff {t : Text} (h : IsBound t) {e : TooManyDigits} :
    bound? t = .error e ↔ Numeral.IsLong e.count t := by
  rcases h with rfl | h
  · have hempty : ¬ Numeral.IsLong e.count [] := fun hlong => by simpa using hlong.lt_length
    simpa [bound?] using hempty
  · rw [bound?, if_neg (by simpa using h.ne_nil), ← Numeral.intOf_eq_error_iff h]
    cases Numeral.intOf t <;> simp [Except.map]

theorem read?_slice_eq_error_iff {a b : Text} (ha : IsBound a) (hb : IsBound b)
    {e : TooManyDigits} : read? (a ++ ':' :: b) = .error e ↔
      Numeral.IsLong e.count a ∨ (∀ k, ¬ Numeral.IsLong k a) ∧ Numeral.IsLong e.count b := by
  have hshort : (∀ k, ¬ Numeral.IsLong k a) ↔ ∀ e, bound? a ≠ .error e :=
    ⟨fun h e he => h _ ((bound?_eq_error_iff ha).mp he),
      fun h k hk => h ⟨k⟩ ((bound?_eq_error_iff ha).mpr hk)⟩
  rw [read?_slice ha hb, hshort, ← bound?_eq_error_iff ha, ← bound?_eq_error_iff hb]
  cases bound? a <;> cases bound? b <;> simp [bind, Except.bind, pure, Except.pure]

theorem read?_eq_error_iff {body : Text} {e : TooManyDigits} :
    read? body = .error e ↔ IsLong e.count body := by
  have hfeed {t : Text} (ht : IsInteger t ∨ IsSlice t) (hbody : body = t ∨ body = t ++ ['\n']) :
      read? body = read? t := by
    rcases hbody with rfl | rfl
    · rfl
    · exact read?_feed (feed_notMem ht)
  constructor
  · intro he
    obtain ⟨t, ht, hbody⟩ : IsPosition body := by
      by_contra hnot
      rw [read?_of_not_isPosition hnot] at he
      contradiction
    rw [hfeed ht hbody] at he
    refine ⟨t, hbody, ?_⟩
    rcases ht with ht | ⟨a, b, ha, hb, rfl⟩
    · rw [read?_integer ht] at he
      refine .inl ((Numeral.intOf_eq_error_iff ht).mp ?_)
      cases hint : Numeral.intOf t <;> simp_all [Except.map]
    · exact .inr ⟨a, b, rfl, ha, hb, (read?_slice_eq_error_iff ha hb).mp he⟩
  · rintro ⟨t, hbody, hlong | ⟨a, b, rfl, ha, hb, hlong⟩⟩
    · have ht := hlong.isInteger
      rw [hfeed (.inl ht) hbody, read?_integer ht, (Numeral.intOf_eq_error_iff ht).mpr hlong]
      rfl
    · rw [hfeed (.inr ⟨a, b, ha, hb, rfl⟩) hbody]
      exact (read?_slice_eq_error_iff ha hb).mpr hlong

theorem IsLong.fault_eq {d e : TooManyDigits} {body : Text} (hd : IsLong d.count body)
    (he : IsLong e.count body) : d = e := by
  have h := read?_eq_error_iff.mpr hd
  rw [read?_eq_error_iff.mpr he] at h
  cases h
  rfl

theorem ofBrackets_eq_error_iff {bodies : List Text} {current : Option Position}
    {f : SelectorFault} : ofBrackets current bodies = .error f ↔
      ∃ body e, First (fun b => ∃ n, IsLong n b) bodies body ∧ IsLong e.count body ∧
        f = .position e := by
  induction bodies generalizing current with
  | nil => simp [ofBrackets, not_first_nil]
  | cons b bs ih =>
    rw [ofBrackets]
    cases hread : read? b with
    | error e =>
      have hlong := read?_eq_error_iff.mp hread
      simp only [first_cons_of_pos (P := fun b => ∃ n, IsLong n b) ⟨_, hlong⟩]
      constructor
      · rintro ⟨⟩
        exact ⟨b, e, rfl, hlong, rfl⟩
      · rintro ⟨body, e', hbody, hlong', rfl⟩
        rw [hbody] at hlong'
        rw [IsLong.fault_eq hlong hlong']
    | ok p =>
      have hshort : ¬ ∃ n, IsLong n b := by
        rintro ⟨n, hn⟩
        rw [read?_eq_error_iff (e := ⟨n⟩) |>.mpr hn] at hread
        contradiction
      simp only [first_cons_of_neg (P := fun b => ∃ n, IsLong n b) hshort]
      cases p <;> exact ih

end Position

def WrittenSegment.Misreads (s : WrittenSegment) (source : Text) (f : Pattern.Fault) : Prop :=
  ∃ t ∈ s.test, t.form = .pattern ∧ t.value = source ∧ Pattern.read source = .error f

/-- Why a segment is not read. Its brackets are read after its pattern. -/
inductive WrittenSegment.Refused (s : WrittenSegment) : SelectorFault → Prop
  | pattern {source : Text} {f : Pattern.Fault} (h : s.Misreads source f) :
      Refused s (.pattern source f)
  | position {body : Text} {e : TooManyDigits} (htest : ∀ source f, ¬ s.Misreads source f)
      (hfirst : First (fun b => ∃ n, Position.IsLong n b) s.brackets body)
      (hlong : Position.IsLong e.count body) : Refused s (.position e)

theorem Matcher.ofWritten?_eq_error_iff {s : WrittenSegment} {e : SelectorFault} :
    ofWritten? s.test = .error e ↔ ∃ source f, s.Misreads source f ∧ e = .pattern source f := by
  cases htest : s.test with
  | none => simp [ofWritten?, WrittenSegment.Misreads, htest]
  | some t =>
    cases hform : t.form with
    | exact | contains =>
      simp [ofWritten?, ofWritten, WrittenSegment.Misreads, htest, hform, Except.map]
    | pattern =>
      cases hread : Pattern.read t.value with
      | ok p =>
        simp [ofWritten?, ofWritten, WrittenSegment.Misreads, htest, hform, hread, Except.map]
      | error f =>
        simp [ofWritten?, ofWritten, WrittenSegment.Misreads, htest, hform, hread, Except.map, eq_comm]

namespace Segment

theorem ofWritten_eq_error_iff {s : WrittenSegment} {e : SelectorFault} :
    ofWritten s = .error e ↔ s.Refused e := by
  cases hmatcher : Matcher.ofWritten? s.test with
  | error f =>
    obtain ⟨source, f, hf, rfl⟩ := Matcher.ofWritten?_eq_error_iff.mp hmatcher
    have he : ofWritten s = .error (.pattern source f) := by rw [ofWritten, hmatcher]; rfl
    rw [he]
    constructor
    · rintro ⟨⟩
      exact .pattern hf
    · rintro (hf' | ⟨htest, -, -⟩)
      · rw [Matcher.ofWritten?_eq_error_iff.mpr ⟨_, _, hf', rfl⟩] at hmatcher
        exact congrArg _ (Except.error.inj hmatcher).symm
      · exact absurd hf (htest _ _)
  | ok m =>
    have htest : ∀ source f, ¬ s.Misreads source f := by
      intro source f hf
      rw [Matcher.ofWritten?_eq_error_iff.mpr ⟨_, _, hf, rfl⟩] at hmatcher
      contradiction
    have he : ofWritten s = .error e ↔ Position.ofBrackets none s.brackets = .error e := by
      rw [ofWritten, hmatcher]
      cases Position.ofBrackets none s.brackets <;> simp [bind, Except.bind, pure, Except.pure]
    rw [he, Position.ofBrackets_eq_error_iff]
    constructor
    · rintro ⟨body, e, hfirst, hlong, rfl⟩
      exact .position htest hfirst hlong
    · rintro (hf | ⟨-, hfirst, hlong⟩)
      · exact absurd hf (htest _ _)
      · exact ⟨_, _, hfirst, hlong, rfl⟩

theorem ofWrittens_eq_error_iff {ss : List WrittenSegment} {e : SelectorFault} :
    ofWrittens ss = .error e ↔
      ∃ s, First (fun r => ∃ f, WrittenSegment.Refused r f) ss s ∧ s.Refused e := by
  induction ss with
  | nil => simp [ofWrittens, not_first_nil]
  | cons s ss ih =>
    cases hs : ofWritten s with
    | error f =>
      have hrefused := ofWritten_eq_error_iff.mp hs
      have he : ofWrittens (s :: ss) = .error f := by rw [ofWrittens, hs]; rfl
      simp only [first_cons_of_pos (P := fun r => ∃ f, WrittenSegment.Refused r f) ⟨f, hrefused⟩,
        exists_eq_left]
      rw [he, ← ofWritten_eq_error_iff, hs, Except.error.injEq, Except.error.injEq]
    | ok r =>
      have hread : ¬ ∃ f, s.Refused f := by
        rintro ⟨f, hf⟩
        rw [ofWritten_eq_error_iff.mpr hf] at hs
        contradiction
      have he : ofWrittens (s :: ss) = .error e ↔ ofWrittens ss = .error e := by
        rw [ofWrittens, hs]
        cases ofWrittens ss <;> simp [bind, Except.bind, pure, Except.pure]
      simp only [first_cons_of_neg (P := fun r => ∃ f, WrittenSegment.Refused r f) hread, he, ih]

end Segment

namespace Written

theorem length_le_of_mem_brackets {t b : Text} (h : b ∈ (brackets t).1) : b.length ≤ t.length := by
  fun_induction brackets t with
  | case1 r ih =>
    rw [List.length_cons]
    rcases List.mem_cons.mp h with rfl | h
    · exact Nat.le_succ_of_le (List.takeWhile_prefix _).length_le
    · exact Nat.le_trans (ih h) (Nat.le_succ_of_le (length_through_le ']' r))
  | case2 => simp at h

theorem length_le_of_mem_segments {t b : Text} {s : WrittenSegment} (hs : s ∈ segments t)
    (hb : b ∈ s.brackets) : b.length ≤ t.length := by
  fun_induction segments t with
  | case1 => simp at hs
  | case2 c r hc ih =>
    have hrest := (List.dropWhile_suffix (l := r) isNameChar).length_le
    rw [List.length_cons]
    rcases List.mem_cons.mp hs with rfl | hs
    · have hle := length_le_of_mem_brackets hb
      have htest := length_test?_le (r.dropWhile isNameChar)
      omega
    · have hle := ih hs
      have hsegment := length_segment_le (c :: r.takeWhile isNameChar) (r.dropWhile isNameChar)
      omega
  | case3 c r hc ih => exact Nat.le_succ_of_le (ih hs)

end Written

/-- Whether a fault of a pattern is a limit of what is read, and no mistake in its writing. -/
def Pattern.Fault.IsLimit (f : Fault) : Prop :=
  f = .longLookbehind ∨ f = .repetitionTooLarge ∨ f = .asciiAndUnicode ∨ ∃ e, f = .tooManyDigits e

theorem SelectorFault.isMalformed_pattern {source : Text} {f : Pattern.Fault} :
    (pattern source f).isMalformed = false ↔ f.IsLimit := by
  cases f <;> simp [isMalformed, Pattern.Fault.IsLimit]

/-- Whether a segment meets a limit: in its pattern, or in its brackets where the pattern is read. -/
def WrittenSegment.MeetsLimit (s : WrittenSegment) : Prop :=
  (∃ source f, s.Misreads source f ∧ f.IsLimit) ∨
    (∀ source f, ¬ s.Misreads source f) ∧ ∃ b ∈ s.brackets, ∃ n, Position.IsLong n b

theorem WrittenSegment.meetsLimit_iff {s : WrittenSegment} :
    s.MeetsLimit ↔ ∃ e, s.Refused e ∧ e.isMalformed = false := by
  constructor
  · rintro (⟨source, f, hf, hlimit⟩ | ⟨htest, hlong⟩)
    · exact ⟨_, .pattern hf, SelectorFault.isMalformed_pattern.mpr hlimit⟩
    · obtain ⟨body, hfirst⟩ := exists_first hlong
      obtain ⟨n, hn⟩ := hfirst.mem.2
      exact ⟨_, .position (e := ⟨n⟩) htest hfirst hn, rfl⟩
  · rintro ⟨-, hf | ⟨htest, hfirst, -⟩, hlimit⟩
    · exact .inl ⟨_, _, hf, SelectorFault.isMalformed_pattern.mp hlimit⟩
    · exact .inr ⟨htest, _, hfirst.mem⟩

namespace Text

theorem selector_eq_error_iff {t : Text} {e : SelectorFault} :
    selector t = .error e ↔
      ∃ s, First (fun r => ∃ f, r.Refused f) (Written.segments t) s ∧ s.Refused e :=
  Segment.ofWrittens_eq_error_iff

theorem exists_selector_iff {t : Text} :
    (∃ ss, selector t = .ok ss) ↔ ∀ s ∈ Written.segments t, ∀ e, ¬ s.Refused e := by
  constructor
  · rintro ⟨ss, hss⟩ s hs e he
    obtain ⟨r, hr⟩ := exists_first (P := fun r => ∃ f, WrittenSegment.Refused r f) ⟨s, hs, e, he⟩
    obtain ⟨f, hf⟩ := hr.mem.2
    rw [selector_eq_error_iff.mpr ⟨r, hr, hf⟩] at hss
    contradiction
  · intro h
    cases hselector : selector t with
    | ok ss => exact ⟨ss, rfl⟩
    | error e =>
      obtain ⟨s, hs, he⟩ := selector_eq_error_iff.mp hselector
      exact absurd he (h s hs.mem.1 e)

theorem selector_ne_position {t : Text} (h : t.length ≤ Numeral.digitLimit) (e : TooManyDigits) :
    selector t ≠ .error (.position e) := by
  intro he
  obtain ⟨s, hs, hrefused⟩ := selector_eq_error_iff.mp he
  cases hrefused with
  | position _ hfirst hlong =>
    have hle := Written.length_le_of_mem_segments hs.mem.1 hfirst.mem.1
    have hlt := hlong.lt_length
    omega

/-- A selector is read if and only if none of its segments is refused, and else the first of them that
is tells why. What is refused is malformed, unless that segment meets a limit; no selector that is
itself within the limit of digits meets it in brackets. -/
theorem selector_outcomes (t : Text) :
    ((∃ ss, selector t = .ok ss) ↔ ∀ s ∈ Written.segments t, ∀ e, ¬ s.Refused e) ∧
    (∀ e, selector t = .error e ↔
      ∃ s, First (fun r => ∃ f, r.Refused f) (Written.segments t) s ∧ s.Refused e) ∧
    ((∃ e, selector t = .error e ∧ e.isMalformed = false) ↔
      ∃ s, First (fun r => ∃ f, r.Refused f) (Written.segments t) s ∧ s.MeetsLimit) ∧
    (t.length ≤ Numeral.digitLimit → ∀ e, selector t ≠ .error (.position e)) := by
  refine ⟨exists_selector_iff, fun e => selector_eq_error_iff, ?_, selector_ne_position⟩
  constructor
  · rintro ⟨e, he, hlimit⟩
    obtain ⟨s, hs, hrefused⟩ := selector_eq_error_iff.mp he
    exact ⟨s, hs, WrittenSegment.meetsLimit_iff.mpr ⟨e, hrefused, hlimit⟩⟩
  · rintro ⟨s, hs, hlimit⟩
    obtain ⟨e, hrefused, hmalformed⟩ := WrittenSegment.meetsLimit_iff.mp hlimit
    exact ⟨e, selector_eq_error_iff.mpr ⟨s, hs, hrefused⟩, hmalformed⟩

/-- A repetition that is too large refuses a selector, and is not malformed. -/
theorem exists_selector_error_not_isMalformed :
    let t := "item(/a\x7b4294967295\x7d/)".toList
    ∃ e, selector t = .error e ∧ e.isMalformed = false := by
  intro t
  have hfault : (match selector t with | .ok _ => none | .error e => some e) =
      some (.pattern "a\x7b4294967295\x7d".toList .repetitionTooLarge) := by decide +kernel
  split at hfault
  · contradiction
  · rename_i e he
    cases hfault
    exact ⟨_, he, rfl⟩

end Text

end Excerpt
