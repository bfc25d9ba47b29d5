import Excerpt.Proofs.Shift

/-!
Borders between blocks. A block reaches as far as it can: what stands behind it could not have been a
part of it. Reading a document afresh from a border, or a block on its own, finds the same blocks.
-/

namespace Excerpt

namespace Text

theorem columnsFrom_lead {t : Text} (h : (t.dropWhile (· == ' ')).head? ≠ some '\t') (n : Nat) :
    columnsFrom n t = n + (t.takeWhile (· == ' ')).length := by
  induction t generalizing n with
  | nil => rfl
  | cons c r ih =>
    by_cases hc : c = ' '
    · subst hc
      have hr : (r.dropWhile (· == ' ')).head? ≠ some '\t' := by simpa using h
      rw [columnsFrom, ih hr, List.takeWhile_cons_of_pos (by simp), List.length_cons]
      omega
    · have htab : c ≠ '\t' := by simpa [hc] using h
      simp [columnsFrom, hc, htab]

end Text

/-- Three spaces do not indent a line, unless a tab follows them. -/
theorem isIndented_of_lead {line : Text} (h : (line.takeWhile (· == ' ')).length ≤ 3)
    (htab : (line.dropWhile (· == ' ')).head? ≠ some '\t') : isIndented line = false := by
  rw [isIndented, Text.columns, Text.columnsFrom_lead htab]
  simpa using Nat.lt_succ_of_le h

theorem isIndented_of_isRule {line : Text} (h : isRule line = true) : isIndented line = false := by
  unfold isRule unindented? at h
  split at h
  · rename_i c r hlead
    split at hlead
    · rename_i hle
      obtain hdrop : line.dropWhile (· == ' ') = c :: r := by simpa using hlead
      refine isIndented_of_lead hle ?_
      rw [hdrop]
      rintro ⟨⟩
      simp at h
    · contradiction
  · contradiction

theorem Bullet.head?_ne_tab {t r : Text} {b : Bullet} {width : Nat}
    (h : Bullet.read? t = some (b, width, r)) : t.head? ≠ some '\t' := by
  cases t with
  | nil => simp
  | cons c t =>
    rintro ⟨⟩
    have hdigit : Text.isDigit '\t' = false := by decide
    simp [Bullet.read?, Bullet.isSign, hdigit] at h

theorem Marker.isIndented_eq_false {line : Text} {m : Marker} (h : Marker.read? line = some m) :
    isIndented line = false := by
  obtain ⟨r, hbullet, hindent, hle, -⟩ := read?_eq_some h
  exact isIndented_of_lead (hindent ▸ hle) (Bullet.head?_ne_tab hbullet)

namespace Line

theorem isIndented_of_interrupts {l : Line} {ls : List Line} (h : l.interrupts ls = true) :
    isIndented l.body = false := by
  by_contra hi
  simp [interrupts, opensBlock, hi] at h

theorem interrupts_of_opensBlock {l : Line} (h : l.opensBlock = true) (ls : List Line) :
    l.interrupts ls = true := by
  simp [interrupts, h]

theorem opensBlock_of_isRule {l : Line} (h : isRule l.body = true) : l.opensBlock = true := by
  simp [opensBlock, h, isIndented_of_isRule h]

theorem interrupts_of_opensItem {l : Line} (h : l.opensItem = true) (ls : List Line) :
    l.interrupts ls = true := by
  cases hm : Marker.read? l.body with
  | none => simp [opensItem, hm] at h
  | some m => simp [interrupts, h, Marker.isIndented_eq_false hm]

theorem interrupts_take {l : Line} {ls : List Line} (h : l.interrupts ls = false) (n : Nat) :
    l.interrupts (ls.take n) = false := by
  cases htake : ls.take n with
  | nil =>
    by_contra hnil
    rw [interrupts_of_nil (by simpa using hnil) ls] at h
    contradiction
  | cons x xs => rwa [← List.take_append_drop n ls, htake, l.interrupts_append (by simp)] at h

end Line

namespace Extent

/-! ### Where a block stops -/

theorem drop_space (ls : List Line) : ls.drop (space ls) = ls.dropWhile Line.isBlank := by
  induction ls with
  | nil => rfl
  | cons l ls ih => by_cases hb : l.isBlank <;> simp_all [space]

variable {ls ms : List Line} {m : Line}

theorem isBlank_of_drop_space (h : ls.drop (space ls) = m :: ms) : m.isBlank = false := by
  rw [drop_space] at h
  have hhead := List.head?_dropWhile_not Line.isBlank ls
  rw [h] at hhead
  simpa using hhead

theorem quote_stops (h : ls.drop (quote ls) = m :: ms) :
    m.isBlank = true ∨ (quoted? m.body).isSome = false ∧ m.interrupts ms = true := by
  induction ls with
  | nil => simp at h
  | cons l ls ih =>
    rw [quote] at h
    by_cases hb : l.isBlank
    · obtain ⟨rfl, -⟩ : l = m ∧ ls = ms := by simpa [hb] using h
      exact .inl hb
    by_cases hq : (quoted? l.body).isSome
    · exact ih (by simpa [hb, hq] using h)
    by_cases hi : l.interrupts ls
    · obtain ⟨rfl, rfl⟩ : l = m ∧ ls = ms := by simpa [hb, hq, hi] using h
      exact .inr ⟨by simpa using hq, hi⟩
    · exact ih (by simpa [hb, hq, hi] using h)

theorem rows_stops (h : ls.drop (rows ls) = m :: ms) :
    m.isBlank = true ∨ m.opensBlock = true ∨ m.opensItem = true := by
  induction ls with
  | nil => simp at h
  | cons l ls ih =>
    rw [rows] at h
    split at h
    · rename_i hstop
      obtain ⟨rfl, -⟩ : l = m ∧ ls = ms := by simpa using h
      simpa [or_assoc] using hstop
    · exact ih (by simpa using h)

theorem paragraph_stops (hdepth : (paragraph ls).2 = none)
    (h : ls.drop (paragraph ls).1 = m :: ms) : m.isBlank = true ∨ m.interrupts ms = true := by
  induction ls with
  | nil => simp at h
  | cons l ls ih =>
    rw [paragraph] at h hdepth
    by_cases hb : l.isBlank
    · obtain ⟨rfl, -⟩ : l = m ∧ ls = ms := by simpa [hb] using h
      exact .inl hb
    cases hu : Heading.underline? l.body with
    | some d => simp [hb, hu] at hdepth
    | none =>
      by_cases hi : l.interrupts ls
      · obtain ⟨rfl, rfl⟩ : l = m ∧ ls = ms := by simpa [hb, hu, hi] using h
        exact .inr hi
      · exact ih (by simpa [hb, hu, hi] using hdepth) (by simpa [hb, hu, hi] using h)

theorem paragraph_take (ls : List Line) : paragraph (ls.take (paragraph ls).1) = paragraph ls := by
  induction ls with
  | nil => rfl
  | cons l ls ih =>
    by_cases hb : l.isBlank
    · simp [paragraph, hb]
    cases hu : Heading.underline? l.body with
    | some d => simp [paragraph, hb, hu]
    | none =>
      by_cases hi : l.interrupts ls
      · simp [paragraph, hb, hu, hi]
      · have hi' := Line.interrupts_take (by simpa using hi) (paragraph ls).1
        simp [paragraph, hb, hu, hi, hi', ih]

theorem indented_stops (h : (ls.drop (indented ls)).dropWhile Line.isBlank = m :: ms) :
    isIndented m.body = false := by
  induction ls with
  | nil => simp at h
  | cons l ls ih =>
    rw [indented] at h
    by_cases hb : l.isBlank
    · by_cases hz : indented ls = 0
      · exact ih (by simpa [hb, hz] using h)
      · exact ih (by simpa [hb, hz] using h)
    by_cases hi : isIndented l.body
    · exact ih (by simpa [hb, hi] using h)
    · obtain ⟨rfl, -⟩ : l = m ∧ ls = ms := by simpa [hb, hi] using h
      simpa using hi

theorem list_take (kind : Char) (indent : Nat) (ls : List Line) :
    list kind indent (ls.take (list kind indent ls).length) = list kind indent ls := by
  induction ls generalizing indent with
  | nil => rfl
  | cons l ls ih =>
    by_cases hb : l.isBlank
    · cases hres : resumes kind indent (ls.dropWhile Line.isBlank) with
      | true =>
        have hshort := List.length_take_of_le (list_le kind indent ls)
        have hgo := @resumes_append kind indent (ls.take (list kind indent ls).length)
          (ls.drop (list kind indent ls).length)
        rw [List.take_append_drop, hshort, hres] at hgo
        simp [list, hb, hres, ih, ← hgo (Nat.le_refl _)]
      | false => simp [list, hb, hres]
    by_cases hindent : indent ≤ Text.columns l.body
    · simp [list, hb, hindent, ih]
    by_cases hrule : isRule l.body
    · simp [list, hb, hindent, hrule]
    cases hm : Marker.read? l.body with
    | some m =>
      by_cases hkind : m.bullet.kind = kind
      · simp [list, hb, hindent, hrule, hm, hkind, ih]
      · simp [list, hb, hindent, hrule, hm, hkind]
    | none =>
      cases hcut : l.interrupts ls with
      | true => simp [list, hb, hindent, hrule, hm, hcut]
      | false => simp [list, hb, hindent, hrule, hm, hcut, ih, Line.interrupts_take hcut]

/-- A list stops at a rule, at another list, at a line that interrupts, or at blank lines behind which
it does not go on. -/
theorem list_stops {kind : Char} {indent : Nat}
    (h : ls.drop (list kind indent ls).length = m :: ms) :
    (m.isBlank = true ∧ ∃ i, resumes kind i ((m :: ms).dropWhile Line.isBlank) = false) ∨
      m.isBlank = false ∧ (isRule m.body = true ∨
        (∃ k, Marker.read? m.body = some k ∧ k.bullet.kind ≠ kind) ∨
        Marker.read? m.body = none ∧ m.interrupts ms = true) := by
  induction ls generalizing indent with
  | nil => simp at h
  | cons l ls ih =>
    rw [list] at h
    by_cases hb : l.isBlank
    · by_cases hres : resumes kind indent (ls.dropWhile Line.isBlank)
      · exact ih (by simpa [hb, hres] using h)
      · obtain ⟨rfl, rfl⟩ : l = m ∧ ls = ms := by simpa [hb, hres] using h
        exact .inl ⟨hb, indent, by simpa [hb] using hres⟩
    by_cases hi : indent ≤ Text.columns l.body
    · exact ih (by simpa [hb, hi] using h)
    by_cases hr : isRule l.body
    · obtain ⟨rfl, -⟩ : l = m ∧ ls = ms := by simpa [hb, hi, hr] using h
      exact .inr ⟨by simpa using hb, .inl hr⟩
    cases hm : Marker.read? l.body with
    | some k =>
      by_cases hk : k.bullet.kind = kind
      · exact ih (by simpa [hb, hi, hr, hm, hk] using h)
      · obtain ⟨rfl, -⟩ : l = m ∧ ls = ms := by simpa [hb, hi, hr, hm, hk] using h
        exact .inr ⟨by simpa using hb, .inr (.inl ⟨k, hm, hk⟩)⟩
    | none =>
      by_cases hx : l.interrupts ls
      · obtain ⟨rfl, rfl⟩ : l = m ∧ ls = ms := by simpa [hb, hi, hr, hm, hx] using h
        exact .inr ⟨by simpa using hb, .inr (.inr ⟨hm, hx⟩)⟩
      · exact ih (by simpa [hb, hi, hr, hm, hx] using h)

theorem list_ends {kind : Char} {indent : Nat}
    (h : (ls.drop (list kind indent ls).length).dropWhile Line.isBlank = m :: ms) :
    isRule m.body = true ∨ ∀ k, Marker.read? m.body = some k → k.bullet.kind ≠ kind := by
  cases hdrop : ls.drop (list kind indent ls).length with
  | nil => simp [hdrop] at h
  | cons x xs =>
    rw [hdrop] at h
    rcases list_stops hdrop with ⟨-, i, hres⟩ | ⟨hb, hstop⟩
    · rw [h] at hres
      by_cases hr : isRule m.body
      · exact .inl hr
      · exact .inr fun k hk => by simp_all [resumes]
    · obtain ⟨rfl, rfl⟩ : x = m ∧ xs = ms := by simpa [hb] using h
      rcases hstop with hr | ⟨k, hk, hne⟩ | ⟨hnone, -⟩
      · exact .inl hr
      · exact .inr (by simpa [hk] using hne)
      · exact .inr (by simp [hnone])

end Extent

namespace Opening

theorem read_space {l : Line} {ls : List Line} (h : read l ls = space) : l.isBlank = true := by
  unfold read at h
  grind

theorem read_of_isBlank {l : Line} (h : l.isBlank = true) (ls : List Line) : read l ls = space := by
  simp [read, h]

theorem read_indented {l : Line} {ls : List Line} (h : read l ls = indented) :
    Fence.opening? l.body = none ∧ isIndented l.body = true := by
  unfold read at h
  repeat' split at h
  all_goals simp_all

theorem read_quote {l : Line} {ls : List Line} (h : read l ls = quote) :
    (quoted? l.body).isSome = true := by
  unfold read at h
  grind

theorem opensBlock_of_read {l : Line} {ls : List Line}
    (h : (∃ m, read l ls = list m) ∨ ∃ header align, read l ls = table header align) :
    l.opensBlock = false := by
  unfold read at h
  repeat' split at h
  all_goals simp_all [Line.opensBlock]

theorem marker_of_read_table {l : Line} {ls : List Line} {header : List Text}
    {align : List (Option Align)} (h : read l ls = table header align) :
    Marker.read? l.body = none := by
  unfold read at h
  repeat' split at h
  all_goals simp_all

/-- The kind of block that a line opens. What opens as a paragraph may turn out a heading. -/
def kind : Opening → Kind
  | space => .space
  | fenced .. | indented => .code
  | heading .. => .heading
  | rule => .rule
  | quote => .quote
  | list _ => .list
  | table .. => .table
  | paragraph => .paragraph

theorem kind_eq_space {o : Opening} : o.kind = .space ↔ o = space := by cases o <;> simp [kind]

theorem kind_eq_quote {o : Opening} : o.kind = .quote ↔ o = quote := by cases o <;> simp [kind]

theorem kind_eq_paragraph {o : Opening} : o.kind = .paragraph ↔ o = paragraph := by
  cases o <;> simp [kind]

theorem kind_eq_list {o : Opening} : o.kind = .list ↔ ∃ m, o = list m := by
  cases o <;> simp [kind]

theorem kind_eq_table {o : Opening} : o.kind = .table ↔ ∃ header align, o = table header align := by
  cases o <;> simp [kind]

theorem kind_content (l : Line) (ls : List Line) (o : Opening) :
    (o.content l ls).kind = o.kind ∨ (o.content l ls).kind = .heading ∧ o = paragraph := by
  cases o with
  | paragraph => cases h : (Extent.paragraph ls).2 <;> simp [content, h, Content.kind, kind]
  | space | fenced | indented | heading | rule | quote | list | table => exact .inl rfl

end Opening

namespace Token

def firstLine? (t : Token) : Option Line := (Text.lines t.raw).head?

/-- A heading without hashes, which has its depth from the line below it. -/
def isUnderlined (t : Token) : Bool :=
  t.isHeading && t.firstLine?.any fun l => (Heading.hashed? l.body).isNone

/-- Code without a fence. -/
def isIndentedCode (t : Token) : Bool :=
  t.kind == .code && t.firstLine?.any fun l => (Fence.opening? l.body).isNone

/-- The bullet of a list, or the delimiter behind its numbers. -/
def bulletKind? (t : Token) : Option Char :=
  t.firstLine?.bind fun l => (Marker.read? l.body).map fun m => m.bullet.kind

theorem kind_read (l : Line) (ls : List Line) (h : (first l ls).kind ≠ .heading) :
    (Opening.read l ls).kind = (first l ls).kind := by
  rcases Opening.kind_content l (ls.take (reach l ls)) (Opening.read l ls) with hk | ⟨hk, -⟩
  · exact hk.symm
  · exact absurd hk h

variable {l m : Line} {ls ms : List Line}

theorem exists_of_kind_list (h : (first l ls).kind = .list) : ∃ k, Opening.read l ls = .list k := by
  rw [← Opening.kind_eq_list, kind_read l ls (by simp [h]), h]

theorem exists_of_kind_table (h : (first l ls).kind = .table) :
    ∃ header align, Opening.read l ls = .table header align := by
  rw [← Opening.kind_eq_table, kind_read l ls (by simp [h]), h]

theorem firstLine?_first (h : Line.AreCut (l :: ls)) : (first l ls).firstLine? = some l := by
  rw [firstLine?, lines_raw_first h]
  rfl

theorem read_of_isUnderlined (hcut : Line.AreCut (l :: ls)) (h : (first l ls).isUnderlined = true) :
    Opening.read l ls = .paragraph := by
  obtain ⟨hheading, hfirst⟩ := Bool.and_eq_true_iff.mp h
  rw [firstLine?_first hcut] at hfirst
  rcases read_of_isHeading hheading with hhash | hpar
  · simp_all
  · exact hpar

theorem isIndentedCode_iff (hcut : Line.AreCut (l :: ls)) :
    (first l ls).isIndentedCode = true ↔ Opening.read l ls = .indented := by
  rw [isIndentedCode, firstLine?_first hcut, Bool.and_eq_true, beq_iff_eq]
  constructor
  · rintro ⟨hkind, hfence⟩
    have hread := kind_read l ls (by simp [hkind])
    rw [hkind] at hread
    cases hr : Opening.read l ls with
    | indented => rfl
    | fenced f info =>
      obtain ⟨s, hs⟩ := Opening.read_fenced hr
      simp [hs] at hfence
    | space | heading | rule | quote | list | table | paragraph => simp [hr, Opening.kind] at hread
  · intro hr
    exact ⟨by rw [kind_first, hr]; rfl, by simp [(Opening.read_indented hr).1]⟩

theorem depth_of_paragraph (hr : Opening.read l ls = .paragraph)
    (h : (first l ls).kind = .paragraph) : (Extent.paragraph ls).2 = none := by
  rw [kind_first, reach, hr, Opening.extent, Opening.content, Extent.paragraph_take] at h
  cases hd : (Extent.paragraph ls).2 with
  | none => rfl
  | some d => simp [hd, Content.kind] at h

/-- A line that no text goes on with: it is blank, it interrupts, or it carries a marker. -/
def Stops (m : Line) (ms : List Line) : Prop :=
  m.isBlank = true ∨ m.interrupts ms = true ∨ (Marker.read? m.body).isSome = true

theorem Stops.read_ne (h : Stops m ms) :
    Opening.read m ms ≠ .paragraph ∧ Opening.read m ms ≠ .indented := by
  constructor
  · intro hr
    have hgo := Opening.interrupts_of_read_paragraph hr
    obtain ⟨hblank, -, -, -, -, hmarker, -⟩ := Opening.read_paragraph hr
    simp [Stops, hblank, hgo, hmarker] at h
  · intro hr
    rcases h with hb | hi | hm
    · simp [Opening.read_of_isBlank hb] at hr
    · exact Bool.false_ne_true
        ((Line.isIndented_of_interrupts hi).symm.trans (Opening.read_indented hr).2)
    · obtain ⟨k, hk⟩ := Option.isSome_iff_exists.mp hm
      exact Bool.false_ne_true
        ((Marker.isIndented_eq_false hk).symm.trans (Opening.read_indented hr).2)

theorem table_stops {header : List Text} {align : List (Option Align)}
    (hr : Opening.read l ls = .table header align) (h : ls.drop (reach l ls) = m :: ms) :
    m.isBlank = true ∨ m.opensBlock = true ∨ m.opensItem = true := by
  rw [reach, hr, Opening.extent, ← List.drop_tail] at h
  exact Extent.rows_stops h

theorem isBlank_or_interrupts (h : ls.drop (reach l ls) = m :: ms)
    (hkind : (first l ls).kind ∈ [.paragraph, .quote, .table]) :
    m.isBlank = true ∨ m.interrupts ms = true := by
  have hread := kind_read l ls (by rintro he; simp [he] at hkind)
  cases hr : Opening.read l ls with
  | quote =>
    rw [reach, hr] at h
    exact (Extent.quote_stops h).imp_right And.right
  | table header align =>
    rcases table_stops hr h with hb | hblock | hitem
    · exact .inl hb
    · exact .inr (Line.interrupts_of_opensBlock hblock ms)
    · exact .inr (Line.interrupts_of_opensItem hitem ms)
  | paragraph =>
    rw [reach, hr] at h
    rw [hr] at hread
    exact Extent.paragraph_stops (depth_of_paragraph hr hread.symm) h
  | space | fenced | indented | heading | rule | list =>
    rw [hr] at hread
    rw [← hread] at hkind
    simp [Opening.kind] at hkind

theorem stops_of_drop (h : ls.drop (reach l ls) = m :: ms)
    (hkind : (first l ls).kind ∈ [.paragraph, .quote, .list, .table]) : Stops m ms := by
  by_cases hlist : (first l ls).kind = .list
  · obtain ⟨k, hk⟩ := exists_of_kind_list hlist
    rw [reach, hk] at h
    rcases Extent.list_stops h with ⟨hb, -⟩ | ⟨-, hrule | ⟨j, hj, -⟩ | ⟨-, hi⟩⟩
    · exact .inl hb
    · exact .inr (.inl (Line.interrupts_of_opensBlock (Line.opensBlock_of_isRule hrule) ms))
    · exact .inr (.inr (by simp [hj]))
    · exact .inr (.inl hi)
  · have hkind' : (first l ls).kind ∈ [.paragraph, .quote, .table] := by
      simpa [hlist] using hkind
    exact (isBlank_or_interrupts h hkind').imp_right .inl

/-- Whether a block may stand right before another one. -/
structure Meets (t u : Token) : Prop where
  kind_ne : t.kind ∈ [.space, .paragraph, .quote, .table] → u.kind ≠ t.kind
  not_text : t.kind ∈ [.paragraph, .quote, .list, .table] →
    u.kind ≠ .paragraph ∧ u.isUnderlined = false ∧ u.isIndentedCode = false

/-- Whether two blocks may stand with nothing or only blank lines between them. -/
structure Unlike (t u : Token) : Prop where
  list : t.kind = .list → u.kind = .list →
    ∃ c d, t.bulletKind? = some c ∧ u.bulletKind? = some d ∧ c ≠ d
  code : t.isIndentedCode = true → u.isIndentedCode = false

theorem kind_ne_of_drop (h : ls.drop (reach l ls) = m :: ms)
    (hkind : (first l ls).kind ∈ [.space, .paragraph, .quote, .table]) :
    (Opening.read m ms).kind ≠ (first l ls).kind := by
  have hread := kind_read l ls (by rintro he; simp [he] at hkind)
  have hstop (hk : (first l ls).kind ∈ [.paragraph, .quote, .list, .table]) := stops_of_drop h hk
  rw [← hread] at hkind hstop ⊢
  cases hr : Opening.read l ls with
  | space =>
    rw [reach, hr] at h
    intro hm
    have hblank := Opening.read_space (Opening.kind_eq_space.mp hm)
    rw [Extent.isBlank_of_drop_space h] at hblank
    contradiction
  | quote =>
    rw [reach, hr] at h
    intro hm
    have hquote := Opening.kind_eq_quote.mp hm
    rcases Extent.quote_stops h with hb | ⟨hq, -⟩
    · simp [Opening.read_of_isBlank hb] at hquote
    · simp [Opening.read_quote hquote] at hq
  | table header align =>
    intro hm
    obtain ⟨header', align', htable⟩ := Opening.kind_eq_table.mp hm
    rcases table_stops hr h with hb | hblock | hitem
    · simp [Opening.read_of_isBlank hb] at htable
    · simp [Opening.opensBlock_of_read (.inr ⟨header', align', htable⟩)] at hblock
    · simp [Line.opensItem, Opening.marker_of_read_table htable] at hitem
  | paragraph =>
    rw [hr] at hstop
    intro hm
    exact (hstop (by simp [Opening.kind])).read_ne.1 (Opening.kind_eq_paragraph.mp hm)
  | fenced | indented | heading | rule | list => simp [hr, Opening.kind] at hkind

theorem meets_of_drop (hcut : Line.AreCut (l :: ls)) (h : ls.drop (reach l ls) = m :: ms) :
    Meets (first l ls) (first m ms) := by
  have hnext : Line.AreCut (m :: ms) := h ▸ (areCut_reach hcut).2
  constructor
  · intro hkind hsame
    apply kind_ne_of_drop h hkind
    rw [kind_read m ms (by rintro he; simp [← hsame, he] at hkind), hsame]
  · intro hkind
    obtain ⟨hpar, hcode⟩ := (stops_of_drop h hkind).read_ne
    refine ⟨?_, ?_, ?_⟩
    · intro hk
      apply hpar
      rw [← Opening.kind_eq_paragraph, kind_read m ms (by simp [hk]), hk]
    · exact Bool.eq_false_iff.mpr fun hu => hpar (read_of_isUnderlined hnext hu)
    · exact Bool.eq_false_iff.mpr fun hi => hcode ((isIndentedCode_iff hnext).mp hi)

theorem unlike_of_dropWhile (hcut : Line.AreCut (l :: ls))
    (h : (ls.drop (reach l ls)).dropWhile Line.isBlank = m :: ms) :
    Unlike (first l ls) (first m ms) := by
  have hnext : Line.AreCut (m :: ms) := by
    have hrest := (areCut_reach hcut).2
    rw [← List.takeWhile_append_dropWhile (p := Line.isBlank) (l := ls.drop (reach l ls)), h] at hrest
    exact hrest.right
  rw [reach] at h
  constructor
  · intro hlist hlist'
    obtain ⟨j, hj⟩ := exists_of_kind_list hlist
    obtain ⟨k, hk⟩ := exists_of_kind_list hlist'
    rw [hj] at h
    have hne : k.bullet.kind ≠ j.bullet.kind := by
      rcases Extent.list_ends h with hrule | hne
      · have hblock := Opening.opensBlock_of_read (.inl ⟨k, hk⟩)
        rw [Line.opensBlock_of_isRule hrule] at hblock
        contradiction
      · exact hne k (Opening.read_list hk)
    refine ⟨j.bullet.kind, k.bullet.kind, ?_, ?_, hne.symm⟩
    · simp [bulletKind?, firstLine?_first hcut, Opening.read_list hj]
    · simp [bulletKind?, firstLine?_first hnext, Opening.read_list hk]
  · intro hcode
    rw [(isIndentedCode_iff hcut).mp hcode] at h
    apply Bool.eq_false_iff.mpr
    intro hcode'
    have hindent := (Opening.read_indented ((isIndentedCode_iff hnext).mp hcode')).2
    rw [Extent.indented_stops h] at hindent
    contradiction

/-- A relation between neighbours that holds wherever a block stops holds all along a document. -/
theorem isChain_blocks {R : Token → Token → Prop}
    (hR : ∀ {l ls m ms}, Line.AreCut (l :: ls) → ls.drop (reach l ls) = m :: ms →
      R (first l ls) (first m ms)) {ls : List Line} (hcut : Line.AreCut ls) :
    (blocks ls).IsChain R := by
  fun_induction blocks ls with
  | case1 => exact .nil
  | case2 l ls o ih =>
    refine List.isChain_cons.mpr ⟨?_, ih (areCut_reach hcut).2⟩
    intro u hu
    cases hrest : ls.drop (o.extent ls) with
    | nil => simp [hrest, blocks_nil] at hu
    | cons m ms =>
      obtain rfl : first m ms = u := by simpa [hrest, blocks_cons] using hu
      exact hR hcut hrest

theorem isBlank_of_kind (h : (first l ls).kind = .space) : l.isBlank = true := by
  have hread : Opening.read l ls = .space := by
    rw [← Opening.kind_eq_space, kind_read l ls (by simp [h]), h]
  exact Opening.read_space hread

theorem kind_of_isBlank (h : l.isBlank = true) (ls : List Line) : (first l ls).kind = .space := by
  rw [kind_first, Opening.read_of_isBlank h]
  rfl

def solid (ts : List Token) : List Token := ts.filter fun t => t.kind != .space

theorem solid_cons_of_isBlank (h : l.isBlank = true) (ts : List Token) :
    solid (first l ls :: ts) = solid ts := by
  simp [solid, kind_of_isBlank h]

theorem solid_cons (h : l.isBlank = false) (ts : List Token) :
    solid (first l ls :: ts) = first l ls :: solid ts := by
  have hkind : (first l ls).kind ≠ .space := fun hk => by simp [isBlank_of_kind hk] at h
  simp [solid, hkind]

theorem solid_dropWhile (ls : List Line) :
    solid (blocks (ls.dropWhile Line.isBlank)) = solid (blocks ls) := by
  cases ls with
  | nil => rfl
  | cons l ls =>
    by_cases hb : l.isBlank
    · have hreach : ls.drop (reach l ls) = ls.dropWhile Line.isBlank := by
        rw [reach, Opening.read_of_isBlank hb]
        exact Extent.drop_space ls
      rw [List.dropWhile_cons_of_pos hb, blocks_cons, solid_cons_of_isBlank hb, hreach]
    · rw [List.dropWhile_cons_of_neg hb]

theorem isChain_solid {R : Token → Token → Prop}
    (hR : ∀ {l ls m ms}, Line.AreCut (l :: ls) →
      (ls.drop (reach l ls)).dropWhile Line.isBlank = m :: ms → R (first l ls) (first m ms))
    {ls : List Line} (hcut : Line.AreCut ls) : (solid (blocks ls)).IsChain R := by
  fun_induction blocks ls with
  | case1 => exact .nil
  | case2 l ls o ih =>
    have htail := ih (areCut_reach hcut).2
    change (solid (first l ls :: blocks (ls.drop (reach l ls)))).IsChain R
    by_cases hb : l.isBlank
    · rwa [solid_cons_of_isBlank hb]
    rw [solid_cons (by simpa using hb)]
    refine List.isChain_cons.mpr ⟨?_, htail⟩
    intro u hu
    rw [← solid_dropWhile] at hu
    cases hrest : (ls.drop (reach l ls)).dropWhile Line.isBlank with
    | nil => simp [hrest, blocks_nil, solid] at hu
    | cons m ms =>
      have hm := List.head?_dropWhile_not Line.isBlank (ls.drop (reach l ls))
      rw [hrest, blocks_cons, solid_cons (by simpa [hrest] using hm)] at hu
      obtain rfl : first m ms = u := by simpa using hu
      exact hR hcut hrest

/-- Blocks reach as far as they can: neither a block right behind another one nor the next one behind
blank lines could have been a part of it. -/
theorem isChain_ofText (source : Text) :
    (ofText source).IsChain Meets ∧ (solid (ofText source)).IsChain Unlike :=
  ⟨isChain_blocks meets_of_drop (Text.lines_areCut source),
    isChain_solid unlike_of_dropWhile (Text.lines_areCut source)⟩

theorem ofText_drop_span {source : Text} {us vs : List Token} (h : ofText source = us ++ vs) :
    ofText (source.drop (span us)) = vs := by
  obtain ⟨xs, ys, hlines, -, hys, -⟩ := reads_of_ofText h
  have hcut := Text.lines_areCut source
  rw [hlines] at hcut
  rw [drop_span h, ← hys, flatMap_raw_blocks, ofText, Text.lines_joined hcut.right]

end Token

namespace Passage

theorem parts_of_index {source : Text} {ps qs : List Passage} {p : Passage}
    (h : index source = ps ++ p :: qs) :
    Token.ofText source = ps.map Passage.token ++ p.token :: qs.map Passage.token ∧
      p.start = Token.span (ps.map Passage.token) := by
  have htokens : Token.ofText source =
      ps.map Passage.token ++ p.token :: qs.map Passage.token := by
    rw [← map_token_consecutive 0 (Token.ofText source), ← index, h, List.map_append, List.map_cons]
  refine ⟨htokens, ?_⟩
  rw [index, htokens, consecutive_append] at h
  have hlength : (consecutive 0 (ps.map Passage.token)).length = ps.length := by
    rw [← List.length_map Passage.token, map_token_consecutive, List.length_map]
  have hp := (List.cons.inj (List.append_inj h hlength).2).1
  rw [← hp, ofToken, Nat.zero_add]

/-- A document may be read afresh from each border: what follows is found as it was, and each block is
found again in its own text. -/
theorem ofText_of_index {source : Text} {ps qs : List Passage} {p : Passage}
    (h : index source = ps ++ p :: qs) :
    Token.ofText p.token.raw = [p.token] ∧
      Token.ofText (source.drop p.start) = p.token :: qs.map Passage.token := by
  obtain ⟨htokens, hstart⟩ := parts_of_index h
  have hmem : p.token ∈ Token.ofText source := by simp [htokens]
  exact ⟨Token.ofText_raw hmem, hstart ▸ Token.ofText_drop_span htokens⟩

theorem ofText_of_index_table :
    let source := "- x\na | b\n--|--\n1. y\n".toList
    ∃ ps p qs, index source = ps ++ p :: qs ∧ p.start = 4 ∧
      Token.ofText p.token.raw = [p.token] ∧
      Token.ofText (source.drop 4) = p.token :: qs.map Passage.token := by
  intro source
  have hstarts : (index source).map Passage.start = [0, 4, 16] := by decide +kernel
  obtain ⟨q, rest, hindex, -, hrest⟩ := List.map_eq_cons_iff.mp hstarts
  obtain ⟨p, qs, rfl, hp, -⟩ := List.map_eq_cons_iff.mp hrest
  have h : index source = [q] ++ p :: qs := hindex
  exact ⟨[q], p, qs, h, hp, hp ▸ ofText_of_index h⟩

end Passage

end Excerpt
