import Excerpt.Selector.Segment
import Excerpt.Proofs.Numerals

/-!
Selectors as rendered. A list of segments has many renderings: they differ in their quotes, in the
flags of patterns, in brackets that do not count and in what stands between the segments. Reading any
of them gives the segments back.
-/

namespace Excerpt

namespace Text

def escaped (mark : Char) (value : Text) : Text :=
  value.flatMap fun c => if c == '\\' || c == mark then ['\\', c] else [c]

def quote (mark : Char) (value : Text) : Text := mark :: escaped mark value ++ [mark]

def bracketed (bodies : List Text) : Text := bodies.flatMap fun b => '[' :: b ++ [']']

end Text

inductive Comparison.Renders : Comparison → Text → Prop
  | exact (mark : Char) (v : Text) (hmark : mark ∈ ['\'', '"']) :
      Renders (.exact v) (Text.quote mark v)
  | contains (mark : Char) (v : Text) (hmark : mark ∈ ['\'', '"']) :
      Renders (.contains v) ('~' :: Text.quote mark v)
  | pattern (v : Text) (p : Pattern) (flags : Text)
      (hflags : ∀ c ∈ flags, c ∈ ['g', 'i', 'm', 's', 'u', 'y']) :
      Renders (.pattern v p) ('/' :: v ++ '/' :: flags)

inductive Matcher.Renders : Option Matcher → Text → Prop
  | none : Renders none []
  | some {m : Matcher} {t : Text} (h : m.comparison.Renders t) :
      Renders (some m) ('(' :: (if m.negated then ['!'] else []) ++ t ++ [')'])

/-- The bodies of the brackets that give a position. Of the brackets before its own any may hold
positions, those behind it may not. -/
inductive Position.Renders : Option Position → List Text → Prop
  | none (after : List Text) (hafter : ∀ b ∈ after, ']' ∉ b ∧ ¬ IsPosition b) : Renders none after
  | some (p : Position) (before after : List Text)
      (hbefore : ∀ b ∈ before, ']' ∉ b ∧ b.length ≤ Numeral.digitLimit)
      (hafter : ∀ b ∈ after, ']' ∉ b ∧ ¬ IsPosition b) :
      Renders (some p) (before ++ p.write :: after)

inductive Segment.Renders (s : Segment) : Text → Prop
  | intro {t : Text} {bodies : List Text} (hmatcher : Matcher.Renders s.matcher t)
      (hposition : Position.Renders s.position bodies) :
      Renders s (s.name ++ t ++ Text.bracketed bodies)

inductive Segment.RendersAll : List Segment → Text → Prop
  | nil : RendersAll [] []
  | single {s : Segment} {t : Text} (h : s.Renders t) : RendersAll [s] t
  | cons {s r : Segment} {ss : List Segment} {t u : Text} (blank : Char) (gap : Text) (h : s.Renders t)
      (hblank : Text.isBlank blank = true) (hgap : ∀ c ∈ gap, Written.isNameChar c = false)
      (hrest : RendersAll (r :: ss) u) : RendersAll (s :: r :: ss) (t ++ blank :: gap ++ u)

/-- A segment that some selector reads as: its pattern compiles and can stand between slashes, and its
integers are not too long. -/
structure Segment.IsSound (s : Segment) : Prop where
  name_ne_nil : s.name ≠ []
  isNameChar_eq : ∀ c ∈ s.name, Written.isNameChar c = true
  word_eq : s.word = Word.named? s.name
  read_pattern : ∀ m ∈ s.matcher, ∀ v p, m.comparison = .pattern v p →
    '/' ∉ v ∧ Pattern.read v = .ok p
  isShort : ∀ p ∈ s.position, p.IsShort

namespace Written

theorem unquote_escape (mark c : Char) (r : Text) :
    unquote mark ('\\' :: c :: r) = (c :: (unquote mark r).1, (unquote mark r).2) := by
  rw [unquote]

theorem unquote_cons {c : Char} (hc : c ≠ '\\') (mark : Char) (r : Text) :
    unquote mark (c :: r) =
      if c == mark then ([], r) else (c :: (unquote mark r).1, (unquote mark r).2) := by
  rw [unquote]
  all_goals simp [hc]

theorem unquote_escaped {mark : Char} (hmark : mark ≠ '\\') (v rest : Text) :
    unquote mark (Text.escaped mark v ++ mark :: rest) = (v, rest) := by
  induction v with
  | nil => simp [Text.escaped, unquote_cons hmark]
  | cons c v ih =>
    rw [Text.escaped, List.flatMap_cons, ← Text.escaped]
    split
    · have hlayout : ['\\', c] ++ Text.escaped mark v ++ mark :: rest =
          '\\' :: c :: (Text.escaped mark v ++ mark :: rest) := rfl
      rw [hlayout, unquote_escape, ih]
    · rename_i hc
      have hc : c ≠ '\\' ∧ c ≠ mark := by simpa using hc
      rw [List.append_assoc, List.singleton_append, unquote_cons hc.1, ih]
      simp [hc.2]

theorem value_quote {mark : Char} (hmark : mark ∈ ['\'', '"']) (v rest : Text) :
    value (Text.quote mark v ++ rest) = (v, rest) := by
  have hquote : isQuote mark = true ∧ mark ≠ '\\' := by
    simp only [List.mem_cons, List.not_mem_nil, or_false] at hmark
    rcases hmark with rfl | rfl <;> decide
  rw [Text.quote, List.append_assoc, List.cons_append, value, if_pos hquote.1]
  exact unquote_escaped hquote.2 v rest

theorem through_append {stop : Char} {t : Text} (h : stop ∉ t) (rest : Text) :
    through stop (t ++ stop :: rest) = (t, rest) := by
  have hne := Text.forall_bne_of_notMem h
  rw [through, Text.takeWhile_append_stop hne (by simp), Text.dropWhile_append_stop hne (by simp),
    List.tail_cons]

end Written

/-- How a comparison was written, whatever it was read from. -/
def Comparison.written (negated : Bool) : Comparison → WrittenTest
  | exact v => ⟨.exact, v, negated⟩
  | contains v => ⟨.contains, v, negated⟩
  | pattern v _ => ⟨.pattern, v, negated⟩

namespace Written

theorem testOf_cons {c : Char} (hc : c ∉ ['~', '/']) (negated : Bool) (r : Text) :
    testOf negated (c :: r) = (⟨.exact, (value (c :: r)).1, negated⟩, (value (c :: r)).2) := by
  simp only [List.mem_cons, List.not_mem_nil, or_false, not_or] at hc
  rw [testOf]
  all_goals simp [hc]

theorem testOf_renders {c : Comparison} {t : Text} (h : c.Renders t)
    (hslash : ∀ v p, c = .pattern v p → '/' ∉ v) (negated : Bool) (rest : Text) :
    testOf negated (t ++ ')' :: rest) = (c.written negated, ')' :: rest) := by
  cases h with
  | exact mark v hmark =>
    have hplain : mark ∉ ['~', '/'] := by
      simp only [List.mem_cons, List.not_mem_nil, or_false] at hmark
      rcases hmark with rfl | rfl <;> decide
    have hvalue := value_quote hmark v (')' :: rest)
    rw [Text.quote, List.cons_append, List.cons_append] at hvalue ⊢
    rw [testOf_cons hplain, hvalue]
    rfl
  | contains mark v hmark =>
    rw [List.cons_append, testOf, value_quote hmark v (')' :: rest)]
    rfl
  | pattern v p flags hflags =>
    have hthrough := through_append (hslash v p rfl) (flags ++ ')' :: rest)
    have hdrop : (flags ++ ')' :: rest).dropWhile isPatternFlag = ')' :: rest := by
      have hall : ∀ c ∈ ['g', 'i', 'm', 's', 'u', 'y'], isPatternFlag c = true :=
        List.all_eq_true.mp (by decide)
      exact Text.dropWhile_append_stop (fun c hc => hall c (hflags c hc)) (by simp; decide)
    have hlayout : '/' :: v ++ '/' :: flags ++ ')' :: rest =
        '/' :: (v ++ '/' :: (flags ++ ')' :: rest)) := by simp
    rw [hlayout, testOf, hthrough, hdrop]
    rfl

theorem test?_of_ne {t : Text} (h : ∀ c ∈ t.head?, c ≠ '(') : test? t = (none, t) := by
  cases t with
  | nil => rfl
  | cons c r =>
    have hc := h c rfl
    rw [test?]
    all_goals simp [hc]

theorem test?_of_head_ne {r : Text} (h : r.head? ≠ some '!') :
    test? ('(' :: r) = (some (testOf false r).1, afterTest (testOf false r).2) := by
  rw [test?]
  rintro r' rfl
  exact h rfl

theorem head?_renders {c : Comparison} {t : Text} (h : c.Renders t) (rest : Text) :
    (t ++ rest).head? ≠ some '!' := by
  cases h with
  | exact mark v hmark =>
    rintro ⟨⟩
    revert hmark
    decide
  | contains | pattern => simp

theorem test?_renders {m : Option Matcher} {t : Text} (h : Matcher.Renders m t)
    (hslash : ∀ n ∈ m, ∀ v p, n.comparison = .pattern v p → '/' ∉ v) {rest : Text}
    (hrest : ∀ c ∈ rest.head?, c ≠ '(') :
    test? (t ++ rest) = (m.map fun n => n.comparison.written n.negated, rest) := by
  cases h with
  | none => exact test?_of_ne hrest
  | @some m t h =>
    have htest := testOf_renders h (hslash m rfl) m.negated rest
    cases hn : m.negated with
    | true =>
      rw [hn] at htest
      have hlayout : '(' :: (if true then ['!'] else []) ++ t ++ [')'] ++ rest =
          '(' :: '!' :: (t ++ ')' :: rest) := by simp
      rw [hlayout, test?, htest]
      simp [afterTest, hn]
    | false =>
      rw [hn] at htest
      have hlayout : '(' :: (if false then ['!'] else []) ++ t ++ [')'] ++ rest =
          '(' :: (t ++ ')' :: rest) := by simp
      rw [hlayout, test?_of_head_ne (head?_renders h _), htest]
      simp [afterTest, hn]

theorem brackets_of_ne {t : Text} (h : ∀ c ∈ t.head?, c ≠ '[') : brackets t = ([], t) := by
  cases t with
  | nil => rw [brackets]; simp
  | cons c r =>
    have hc := h c rfl
    rw [brackets]
    all_goals simp [hc]

theorem brackets_bracketed {bodies : List Text} (h : ∀ b ∈ bodies, ']' ∉ b) {rest : Text}
    (hrest : ∀ c ∈ rest.head?, c ≠ '[') :
    brackets (Text.bracketed bodies ++ rest) = (bodies, rest) := by
  induction bodies with
  | nil => exact brackets_of_ne hrest
  | cons b bs ih =>
    have hthrough := through_append (h b (by simp)) (Text.bracketed bs ++ rest)
    have hbracketed : Text.bracketed (b :: bs) ++ rest =
        '[' :: (b ++ ']' :: (Text.bracketed bs ++ rest)) := by
      simp [Text.bracketed]
    rw [hbracketed, brackets, hthrough, ih fun c hc => h c (List.mem_cons_of_mem b hc)]

end Written

namespace Position

theorem ofBrackets_append {before : List Text}
    (h : ∀ b ∈ before, b.length ≤ Numeral.digitLimit) (current : Option Position)
    (bodies : List Text) :
    ∃ p, ofBrackets current (before ++ bodies) = ofBrackets p bodies := by
  induction before generalizing current with
  | nil => exact ⟨current, rfl⟩
  | cons b bs ih =>
    have hbs := ih fun c hc => h c (List.mem_cons_of_mem b hc)
    obtain ⟨q, hq⟩ := exists_read? (h b (by simp))
    rw [List.cons_append, ofBrackets, hq]
    cases q with
    | none => exact hbs current
    | some q => exact hbs (some q)

theorem ofBrackets_of_not_isPosition {bodies : List Text} (h : ∀ b ∈ bodies, ¬ IsPosition b)
    (current : Option Position) : ofBrackets current bodies = .ok current := by
  induction bodies with
  | nil => rfl
  | cons b bs ih =>
    rw [ofBrackets, read?_of_not_isPosition (h b (by simp))]
    exact ih fun c hc => h c (List.mem_cons_of_mem b hc)

theorem ofBrackets_renders {p : Option Position} (hp : ∀ q ∈ p, q.IsShort) {bodies : List Text}
    (h : Renders p bodies) : ofBrackets none bodies = .ok p := by
  cases h with
  | none after hafter => exact ofBrackets_of_not_isPosition (fun b hb => (hafter b hb).2) none
  | some p before after hbefore hafter =>
    obtain ⟨q, hq⟩ := ofBrackets_append (fun b hb => (hbefore b hb).2) none (p.write :: after)
    rw [hq, ofBrackets, read?_write (hp p rfl)]
    exact ofBrackets_of_not_isPosition (fun b hb => (hafter b hb).2) (some p)

theorem bracket_notMem {p : Option Position} {bodies : List Text} (h : Renders p bodies) :
    ∀ b ∈ bodies, ']' ∉ b := by
  cases h with
  | none after hafter => exact fun b hb => (hafter b hb).1
  | some p before after hbefore hafter =>
    intro b hb
    rcases List.mem_append.mp hb with hb | hb
    · exact (hbefore b hb).1
    · rcases List.mem_cons.mp hb with rfl | hb
      · exact notMem_write (by decide) (by decide) (by decide) p
      · exact (hafter b hb).1

end Position

theorem Matcher.ofWritten?_written {m : Option Matcher}
    (h : ∀ n ∈ m, ∀ v p, n.comparison = .pattern v p → Pattern.read v = .ok p) :
    ofWritten? (m.map fun n => n.comparison.written n.negated) = .ok m := by
  cases m with
  | none => rfl
  | some m =>
    obtain ⟨c, negated⟩ := m
    cases c with
    | exact v | contains v => rfl
    | pattern v p =>
      have hread := h _ rfl v p rfl
      simp [ofWritten?, Comparison.written, ofWritten, hread, Except.map]

namespace Segment

theorem isNameChar_of_isBlank {c : Char} (h : Text.isBlank c = true) :
    Written.isNameChar c = false := by
  have hall : ∀ n ∈ Text.blanks, Written.isNameChar (Char.ofNat n) = false := by decide
  have hc := hall c.toNat (by simpa [Text.isBlank, Text.isBlankCode] using h)
  rwa [Char.ofNat_toNat] at hc

theorem head?_bracketed (bodies : List Text) (rest : Text) :
    ∀ c ∈ (Text.bracketed bodies ++ rest).head?, c = '[' ∨ c ∈ rest.head? := by
  cases bodies with
  | nil => exact fun c hc => .inr hc
  | cons b bs =>
    rintro c ⟨⟩
    exact .inl rfl

theorem head?_matcher {m : Option Matcher} {t : Text} (h : Matcher.Renders m t) (rest : Text) :
    ∀ c ∈ (t ++ rest).head?, c = '(' ∨ c ∈ rest.head? := by
  cases h with
  | none => exact fun c hc => .inr hc
  | some h =>
    rintro c ⟨⟩
    exact .inl rfl

/-- A name ends where a character comes that no name holds. -/
theorem segments_name {name : Text} (hne : name ≠ [])
    (hname : ∀ c ∈ name, Written.isNameChar c = true) {rest : Text}
    (hrest : ∀ c ∈ rest.head?, Written.isNameChar c = false) :
    Written.segments (name ++ rest) =
      (Written.segment name rest).1 :: Written.segments (Written.segment name rest).2 := by
  obtain ⟨c, r, rfl⟩ := List.exists_cons_of_ne_nil hne
  have hr : ∀ d ∈ r, Written.isNameChar d = true := fun d hd => hname d (List.mem_cons_of_mem c hd)
  rw [List.cons_append, Written.segments, if_pos (hname c (by simp)),
    Text.takeWhile_append_stop hr hrest, Text.dropWhile_append_stop hr hrest]

theorem segments_of_renders {s : Segment} (hs : s.IsSound) {t : Text} (h : s.Renders t) (rest : Text)
    (hrest : ∀ c ∈ rest.head?, Text.isBlank c = true) :
    ∃ w, Written.segments (t ++ rest) = w :: Written.segments rest ∧ ofWritten w = .ok s := by
  obtain ⟨hmatcher, hposition⟩ := h
  rename_i t bodies
  -- no part of a segment goes on with what comes behind it, from the last part to the name
  have hbrackets : Written.brackets (Text.bracketed bodies ++ rest) = (bodies, rest) :=
    Written.brackets_bracketed (Position.bracket_notMem hposition) fun c hc =>
      Text.ne_of_class (hrest c hc) (by decide)
  have htest : Written.test? (t ++ (Text.bracketed bodies ++ rest)) =
      (s.matcher.map fun m => m.comparison.written m.negated, Text.bracketed bodies ++ rest) := by
    refine Written.test?_renders hmatcher
      (fun m hm v p hv => (hs.read_pattern m hm v p hv).1) fun c hc => ?_
    rcases head?_bracketed bodies rest c hc with rfl | hc
    · decide
    · exact Text.ne_of_class (hrest c hc) (by decide)
  have hstop : ∀ c ∈ (t ++ (Text.bracketed bodies ++ rest)).head?, Written.isNameChar c = false := by
    intro c hc
    rcases head?_matcher hmatcher _ c hc with rfl | hc
    · decide
    · rcases head?_bracketed bodies rest c hc with rfl | hc
      · decide
      · exact isNameChar_of_isBlank (hrest c hc)
  refine ⟨⟨s.name, s.matcher.map fun n => n.comparison.written n.negated, bodies⟩, ?_, ?_⟩
  · rw [List.append_assoc, List.append_assoc, segments_name hs.name_ne_nil hs.isNameChar_eq hstop,
      Written.segment, htest, hbrackets]
  · have hread := Matcher.ofWritten?_written fun m hm v p hv => (hs.read_pattern m hm v p hv).2
    have hpos := Position.ofBrackets_renders hs.isShort hposition
    simp only [ofWritten, hread, hpos, ← hs.word_eq]
    rfl

theorem segments_append {gap : Text} (h : ∀ c ∈ gap, Written.isNameChar c = false) (t : Text) :
    Written.segments (gap ++ t) = Written.segments t := by
  induction gap with
  | nil => rfl
  | cons c gap ih =>
    have hc := h c (by simp)
    rw [List.cons_append, Written.segments, if_neg (by simp [hc])]
    exact ih fun d hd => h d (List.mem_cons_of_mem c hd)

theorem ofWrittens_segments {ss : List Segment} {t : Text} (h : RendersAll ss t)
    (hss : ∀ s ∈ ss, s.IsSound) : ofWrittens (Written.segments t) = .ok ss := by
  induction h with
  | nil =>
    rw [Written.segments]
    rfl
  | @single s t h =>
    obtain ⟨w, hw, hread⟩ := segments_of_renders (hss s (by simp)) h [] (by simp)
    rw [List.append_nil, Written.segments] at hw
    rw [hw, ofWrittens, hread]
    rfl
  | @cons s r ss t u blank gap h hblank hgap hrest ih =>
    have hskip : Written.segments (blank :: gap ++ u) = Written.segments u := by
      refine segments_append (fun c hc => ?_) u
      rcases List.mem_cons.mp hc with rfl | hc
      · exact isNameChar_of_isBlank hblank
      · exact hgap c hc
    obtain ⟨w, hw, hread⟩ := segments_of_renders (hss s (by simp)) h (blank :: gap ++ u)
      (by simpa using hblank)
    have hrest := ih fun v hv => hss v (List.mem_cons_of_mem s hv)
    rw [List.append_assoc, hw, hskip, ofWrittens, hread, hrest]
    rfl

theorem exists_renders (s : Segment) : ∃ t, s.Renders t := by
  have hmatcher : ∃ t, Matcher.Renders s.matcher t := by
    cases s.matcher with
    | none => exact ⟨[], .none⟩
    | some m =>
      obtain ⟨c, negated⟩ := m
      cases c with
      | exact v => exact ⟨_, .some (.exact '"' v (by decide))⟩
      | contains v => exact ⟨_, .some (.contains '"' v (by decide))⟩
      | pattern v p => exact ⟨_, .some (.pattern v p [] (by simp))⟩
  have hposition : ∃ bodies, Position.Renders s.position bodies := by
    cases s.position with
    | none => exact ⟨[], .none [] (by simp)⟩
    | some p => exact ⟨_, .some p [] [] (by simp) (by simp)⟩
  obtain ⟨t, ht⟩ := hmatcher
  obtain ⟨bodies, hbodies⟩ := hposition
  exact ⟨_, .intro ht hbodies⟩

theorem exists_rendersAll (ss : List Segment) : ∃ t, RendersAll ss t := by
  induction ss with
  | nil => exact ⟨[], .nil⟩
  | cons s ss ih =>
    obtain ⟨t, ht⟩ := exists_renders s
    obtain ⟨u, hu⟩ := ih
    cases ss with
    | nil => exact ⟨t, .single ht⟩
    | cons r ss => exact ⟨_, .cons ' ' [] ht (by decide) (by simp) hu⟩

end Segment

/-- Segments can be rendered, and reading any of their renderings gives the same segments back. -/
theorem Text.selector_of_renders {ss : List Segment} (hss : ∀ s ∈ ss, s.IsSound) :
    (∃ t, Segment.RendersAll ss t) ∧ ∀ t, Segment.RendersAll ss t → selector t = .ok ss :=
  ⟨Segment.exists_rendersAll ss, fun _ ht => Segment.ofWrittens_segments ht hss⟩

/-- A value with the characters that end values, tests and brackets, and a word that is unknown. -/
theorem Text.selector_of_renders_mixed :
    ∃ p, Pattern.read "^a".toList = .ok p ∧
      let s : Segment := ⟨"section2".toList, some (.scope (some 2)),
        some ⟨.contains "\")\\]".toList, true⟩, some (.slice (some (-3)) none)⟩
      let r : Segment := ⟨"widget".toList, none, some ⟨.pattern "^a".toList p, false⟩, none⟩
      let t := "section2(!~\"\\\")\\\\]\")[7][-3:][x]\n>(widget(/^a/gi)[1:2:3]".toList
      (s.IsSound ∧ r.IsSound) ∧ Segment.RendersAll [s, r] t ∧ Text.selector t = .ok [s, r] := by
  obtain ⟨p, hp⟩ : ∃ p, Pattern.read "^a".toList = .ok p := ⟨_, rfl⟩
  refine ⟨p, hp, ?_⟩
  intro s r t
  have hs : s.IsSound := by
    refine ⟨by decide, List.all_eq_true.mp (by decide), by decide, by simp [s], ?_⟩
    rintro q ⟨⟩
    refine ⟨?_, by simp⟩
    rintro i ⟨⟩
    decide
  have hr : r.IsSound := by
    have hname : "widget".toList.all Written.isNameChar = true ∧
        none = Word.named? "widget".toList := by decide
    refine ⟨by simp [r], List.all_eq_true.mp hname.1, hname.2, ?_, by simp [r]⟩
    rintro m ⟨⟩ v q ⟨⟩
    exact ⟨by decide, hp⟩
  have hsections : s.Renders "section2(!~\"\\\")\\\\]\")[7][-3:][x]".toList :=
    .intro (s := s) (.some (.contains '"' _ (by decide)))
      (.some (.slice (some (-3)) none) ["7".toList] ["x".toList] (by decide) (by decide))
  have hwidgets : r.Renders "widget(/^a/gi)[1:2:3]".toList :=
    .intro (s := r) (.some (.pattern _ _ "gi".toList (by simp)))
      (.none ["1:2:3".toList] (by decide))
  have ht : Segment.RendersAll [s, r] t :=
    .cons '\n' ['>', '('] hsections (by decide) (List.forall_mem_cons.mpr ⟨by decide, by simp; decide⟩)
      (.single hwidgets)
  exact ⟨⟨hs, hr⟩, ht, (selector_of_renders (by simp [hs, hr])).2 t ht⟩

end Excerpt
