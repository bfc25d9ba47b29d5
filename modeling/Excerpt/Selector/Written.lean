import Excerpt.Text.Blank

/-!
Selectors as written. Each segment is a word with an optional test in parentheses and any number of
brackets; characters that cannot start a word are passed over.
-/

namespace Excerpt

/-- How a test was written. -/
inductive Form where
  | exact
  | contains
  | pattern
  deriving DecidableEq, Repr

structure WrittenTest where
  form : Form
  value : Text
  negated : Bool
  deriving DecidableEq, Repr

structure WrittenSegment where
  name : Text
  test : Option WrittenTest
  brackets : List Text
  deriving DecidableEq, Repr

namespace Written

def isNameChar (c : Char) : Bool :=
  ('a' ≤ c && c ≤ 'z') || ('A' ≤ c && c ≤ 'Z') || ('0' ≤ c && c ≤ '9') || c == '_'

def isQuote (c : Char) : Bool := c == '\'' || c == '"'

def isPatternFlag (c : Char) : Bool :=
  c == 'g' || c == 'i' || c == 'm' || c == 's' || c == 'u' || c == 'y'

/-- Reads up to a character or to the end, and passes that character. -/
def through (stop : Char) (t : Text) : Text × Text :=
  (t.takeWhile (· != stop), (t.dropWhile (· != stop)).tail)

/-- The rest of a quoted text. A backslash takes the next character as it is. -/
def unquote (mark : Char) : Text → Text × Text
  | [] => ([], [])
  | ['\\'] => ([], [])
  | '\\' :: c :: r => (c :: (unquote mark r).1, (unquote mark r).2)
  | c :: r =>
    if c == mark then ([], r) else (c :: (unquote mark r).1, (unquote mark r).2)

/-- A value: quoted, or everything up to the closing parenthesis without the blanks around it. -/
def value (t : Text) : Text × Text :=
  match t with
  | c :: r =>
    if isQuote c then unquote c r
    else (Text.strip (t.takeWhile (· != ')')), t.dropWhile (· != ')'))
  | [] => ([], [])

def testOf (negated : Bool) (t : Text) : WrittenTest × Text :=
  match t with
  | '~' :: r => (⟨.contains, (value r).1, negated⟩, (value r).2)
  | '/' :: r => (⟨.pattern, (through '/' r).1, negated⟩, (through '/' r).2.dropWhile isPatternFlag)
  | t => (⟨.exact, (value t).1, negated⟩, (value t).2)

def afterTest : Text → Text
  | ')' :: r => r
  | t => t

def test? : Text → Option WrittenTest × Text
  | '(' :: '!' :: r => (some (testOf true r).1, afterTest (testOf true r).2)
  | '(' :: r => (some (testOf false r).1, afterTest (testOf false r).2)
  | t => (none, t)

theorem length_unquote_le (mark : Char) (t : Text) : (unquote mark t).2.length ≤ t.length := by
  fun_induction unquote mark t <;> simp_all <;> omega

theorem length_value_le (t : Text) : (value t).2.length ≤ t.length := by
  unfold value
  split
  · split
    · exact Nat.le_succ_of_le (length_unquote_le _ _)
    · exact (List.dropWhile_suffix _).length_le
  · simp

theorem length_through_le (stop : Char) (t : Text) : (through stop t).2.length ≤ t.length := by
  have h := (List.dropWhile_suffix (l := t) (· != stop)).length_le
  simp only [through, List.length_tail]
  omega

theorem length_testOf_le (negated : Bool) (t : Text) :
    (testOf negated t).2.length ≤ t.length := by
  unfold testOf
  split
  · exact Nat.le_succ_of_le (length_value_le _)
  · rename_i r
    have h := (List.dropWhile_suffix (l := (through '/' r).2) isPatternFlag).length_le
    have h' := length_through_le '/' r
    simp only [List.length_cons]
    omega
  · exact length_value_le _

theorem length_afterTest_le (t : Text) : (afterTest t).length ≤ t.length := by
  unfold afterTest
  split <;> simp

theorem length_test?_le (t : Text) : (test? t).2.length ≤ t.length := by
  unfold test?
  split
  · rename_i r
    have h := length_testOf_le true r
    have h' := length_afterTest_le (testOf true r).2
    simp only [List.length_cons]
    omega
  · rename_i r _
    have h := length_testOf_le false r
    have h' := length_afterTest_le (testOf false r).2
    simp only [List.length_cons]
    omega
  · exact Nat.le_refl _

def brackets (t : Text) : List Text × Text :=
  match t with
  | '[' :: r =>
    ((through ']' r).1 :: (brackets (through ']' r).2).1, (brackets (through ']' r).2).2)
  | t => ([], t)
termination_by t.length
decreasing_by all_goals simp; have := length_through_le ']' r; omega

theorem length_brackets_le (t : Text) : (brackets t).2.length ≤ t.length := by
  fun_induction brackets t with
  | case1 r ih =>
    have h := length_through_le ']' r
    simp only [List.length_cons]
    omega
  | case2 => exact Nat.le_refl _

/-- The test and the brackets behind a name. -/
def segment (name t : Text) : WrittenSegment × Text :=
  (⟨name, (test? t).1, (brackets (test? t).2).1⟩, (brackets (test? t).2).2)

theorem length_segment_le (name t : Text) : (segment name t).2.length ≤ t.length :=
  Nat.le_trans (length_brackets_le _) (length_test?_le _)

def segments (t : Text) : List WrittenSegment :=
  match t with
  | [] => []
  | c :: r =>
    if isNameChar c then
      (segment (c :: r.takeWhile isNameChar) (r.dropWhile isNameChar)).1 ::
        segments (segment (c :: r.takeWhile isNameChar) (r.dropWhile isNameChar)).2
    else segments r
termination_by t.length
decreasing_by
  · have h := length_segment_le (c :: r.takeWhile isNameChar) (r.dropWhile isNameChar)
    have h' := (List.dropWhile_suffix (l := r) isNameChar).length_le
    simp only [List.length_cons]
    omega
  · simp

end Written

end Excerpt
