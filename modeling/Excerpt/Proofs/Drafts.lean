import Excerpt.Proofs.Cells
import Excerpt.Proofs.Openers

/-!
Documents as written. A document that is written block by block, with a blank line behind each block,
reads back as the same blocks.
-/

namespace Excerpt

namespace Text

def IsProse (t : Text) : Prop := t.IsLine ∧ '|' ∉ t ∧ t.head?.any Char.isAlpha = true

instance : DecidablePred IsProse := fun _ => inferInstanceAs (Decidable (_ ∧ _))

theorem IsProse.exists_cons {t : Text} (h : t.IsProse) : ∃ c r, t = c :: r ∧ c.isAlpha = true := by
  cases t with
  | nil => exact absurd h.2.2 (by simp)
  | cons c r => exact ⟨c, r, rfl, h.2.2⟩

end Text

/-- A block before it is written. The size of a code block is the length of its fences. -/
inductive Draft where
  | heading (depth : Nat) (text : Text)
  | code (size : Nat) (text : Text)
  | table (header : List Text) (rows : List (List Text))
  | rule
  | paragraph (line : Text) (more : List Text)

namespace Draft

def delimiter : Text := ['-', '-', '-']

def write : Draft → Text
  | heading d t => List.replicate d '#' ++ (' ' :: t ++ [' ', '#', '\n'])
  | code n t => List.replicate n '`' ++ '\n' :: t ++ '\n' :: List.replicate n '`' ++ ['\n']
  | table header rows =>
    (header :: List.replicate header.length delimiter :: rows).flatMap fun r => Row.write r ++ ['\n']
  | rule => ['*', '*', '*', '\n']
  | paragraph l ls => (l :: ls).flatMap (· ++ ['\n'])

/-- What the rules for writing a block ask of it. -/
def IsSound : Draft → Prop
  | heading d t => (1 ≤ d ∧ d ≤ 6) ∧ t.IsLine
  | code n t => 3 ≤ n ∧ '\r' ∉ t ∧ ∀ k, List.replicate k '`' <:+: t → k < n
  | table header rows =>
    header ≠ [] ∧ (∀ c ∈ header, Row.IsCell c) ∧
      ∀ r ∈ rows, r.length = header.length ∧ ∀ c ∈ r, Row.IsCell c
  | rule => True
  | paragraph l ls => ∀ t ∈ l :: ls, t.IsProse

theorem forall_replicate_lt_iff {c : Char} {n : Nat} {t : Text} :
    (∀ k, List.replicate k c <:+: t → k < n) ↔ Text.hasPart (List.replicate n c) t = false := by
  rw [← Bool.not_eq_true, Text.hasPart_iff]
  refine ⟨fun h hn => Nat.lt_irrefl n (h n hn), fun h k hk => ?_⟩
  by_contra hnk
  have hlead : List.replicate n c <+: List.replicate k c :=
    ⟨List.replicate (k - n) c, by rw [List.replicate_append_replicate]; congr; omega⟩
  exact h (hlead.isInfix.trans hk)

instance : DecidablePred IsSound
  | heading .. | table .. => inferInstanceAs (Decidable (_ ∧ _))
  | code n t =>
    decidable_of_iff' (3 ≤ n ∧ '\r' ∉ t ∧ Text.hasPart (List.replicate n '`') t = false)
      (and_congr_right fun _ => and_congr_right fun _ => forall_replicate_lt_iff)
  | rule => isTrue trivial
  | paragraph l ls => inferInstanceAs (Decidable (∀ t ∈ l :: ls, t.IsProse))

def content : Draft → Content Token
  | heading d t => .heading (some d) t
  | code _ t => .code none t
  | table header rows => .table header (List.replicate header.length none) rows
  | rule => .rule
  | paragraph l ls => .paragraph (Text.unlines (l :: ls))

def first : Draft → Text
  | heading d t => List.replicate d '#' ++ (' ' :: t ++ [' ', '#'])
  | code n _ => List.replicate n '`'
  | table header _ => Row.write header
  | rule => ['*', '*', '*']
  | paragraph l _ => l

def further : Draft → List Text
  | heading .. | rule => []
  | code n t => Text.pieces '\n' t ++ [List.replicate n '`']
  | table header rows => Row.write (List.replicate header.length delimiter) :: rows.map Row.write
  | paragraph _ ls => ls

def opening : Draft → Opening
  | heading d t => .heading d t
  | code n _ => .fenced (Fence.ticks n) []
  | table header _ => .table header (List.replicate header.length none)
  | rule => .rule
  | paragraph .. => .paragraph

theorem write_eq (d : Draft) : d.write = (d.first :: d.further).flatMap (· ++ ['\n']) := by
  cases d with
  | heading d t => simp [write, first, further]
  | code n t => simp [write, first, further, Text.flatMap_pieces]
  | table header rows => simp [write, first, further, List.flatMap_map]
  | rule => rfl
  | paragraph l ls => rfl

end Draft

namespace Line

def fed (body : Text) : Line := ⟨body, .lf⟩

theorem joined_fed (bodies : List Text) : joined (bodies.map fed) = bodies.flatMap (· ++ ['\n']) := by
  rw [joined, List.flatMap_map]
  rfl

theorem areCut_fed {bodies : List Text} (h : ∀ b ∈ bodies, '\r' ∉ b ∧ '\n' ∉ b) :
    AreCut (bodies.map fed) := by
  refine ⟨?_, ?_⟩
  · intro l hl
    obtain ⟨b, hb, rfl⟩ := List.mem_map.mp hl
    exact ⟨(h b hb).1, (h b hb).2, by simp [fed]⟩
  · have hmeets : (bodies.map fed).Pairwise Meets :=
      List.pairwise_map.mpr (List.pairwise_of_forall fun _ _ => ⟨by simp [fed], by simp [fed]⟩)
    exact hmeets.isChain

section Plain

variable {l : Line} {c : Char} {r : Text} (hl : l.body = c :: r) (hc : Text.IsPlain c)
include hl hc

theorem isBlank_plain : l.isBlank = false := by
  simp [isBlank, hl, hc.isBlank_eq]

theorem opensBlock_plain : l.opensBlock = false := by
  simp [opensBlock, hl, Fence.opening?_plain hc, Heading.hashed?_plain hc, isRule_plain hc,
    quoted?_plain hc]

theorem opensItem_plain : l.opensItem = false := by
  simp [opensItem, hl, Marker.read?_plain hc]

theorem interrupts_plain (ls : List Line) : l.interrupts ls = (tableAt? l ls).isSome := by
  simp [interrupts, opensBlock_plain hl hc, opensItem_plain hl hc, hl, isIndented_plain hc]

theorem read_plain (ls : List Line) :
    Opening.read l ls =
      match tableAt? l ls with
      | some (header, align) => .table header align
      | none => .paragraph := by
  simp only [Opening.read, isBlank_plain hl hc, hl, Fence.opening?_plain hc, isIndented_plain hc,
    Heading.hashed?_plain hc, isRule_plain hc, quoted?_plain hc, Marker.read?_plain hc]
  rfl

end Plain

end Line

theorem tableHead?_of_notMem {first second : Text} (h : '|' ∉ first) (h' : '|' ∉ second) :
    tableHead? first second = none := by
  simp [tableHead?, h, h']

namespace Draft

theorem isCell_delimiter : Row.IsCell delimiter := by decide

theorem tableHead?_write {header : List Text} (hne : header ≠ []) (h : ∀ c ∈ header, Row.IsCell c) :
    tableHead? (Row.write header) (Row.write (List.replicate header.length delimiter)) =
      some (header, List.replicate header.length none) := by
  have hcells : Row.cells (Row.write (List.replicate header.length delimiter)) =
      List.replicate header.length delimiter := by
    refine Row.cells_write (by simpa using hne) fun c hc => ?_
    rw [(List.mem_replicate.mp hc).2]
    exact isCell_delimiter
  have hindent : isIndented (Row.write header) = false := isIndented_plain Text.isPlain_pipe _
  have hpipe : '|' ∈ Row.write header := List.mem_cons_self
  have hdelimiter : Align.isDelimiter delimiter = true ∧ Align.ofDelimiter delimiter = none := by
    decide
  simp [tableHead?, hcells, hindent, hpipe, Row.cells_write hne h, hdelimiter]

theorem rows_write (rows : List (List Text)) (ms : List Line) :
    Extent.rows (rows.map (fun r => Line.fed (Row.write r)) ++ Line.fed [] :: ms) = rows.length := by
  induction rows with
  | nil => rfl
  | cons r rows ih =>
    have hr : (Line.fed (Row.write r)).body = '|' :: (Row.write r).tail := rfl
    simp [Extent.rows, ih, Line.isBlank_plain hr Text.isPlain_pipe,
      Line.opensBlock_plain hr Text.isPlain_pipe, Line.opensItem_plain hr Text.isPlain_pipe]

theorem tableAt?_prose {t : Text} (ht : t.IsProse) {ts : List Text} (hts : ∀ u ∈ ts, u.IsProse)
    (ms : List Line) (hms : ∀ m ∈ ms.head?, m = Line.fed []) :
    tableAt? (Line.fed t) (ts.map Line.fed ++ ms) = none := by
  cases ts with
  | cons u us => exact tableHead?_of_notMem ht.2.1 (hts u (by simp)).2.1
  | nil =>
    cases ms with
    | nil => rfl
    | cons m ms =>
      obtain rfl := hms m rfl
      exact tableHead?_of_notMem ht.2.1 (by simp [Line.fed])

theorem paragraph_prose {ts : List Text} (hts : ∀ t ∈ ts, t.IsProse) (ms : List Line)
    (hms : ∀ m ∈ ms.head?, m = Line.fed []) :
    Extent.paragraph (ts.map Line.fed ++ ms) = (ts.length, none) := by
  induction ts with
  | nil =>
    cases ms with
    | nil => rfl
    | cons m ms =>
      obtain rfl := hms m rfl
      rfl
  | cons t ts ih =>
    have hrest : ∀ u ∈ ts, u.IsProse := fun u hu => hts u (List.mem_cons_of_mem t hu)
    have ht := hts t (by simp)
    obtain ⟨c, r, rfl, hc⟩ := ht.exists_cons
    have hplain := Text.isPlain_of_isAlpha hc
    have hl : (Line.fed (c :: r)).body = c :: r := rfl
    simp [Extent.paragraph, ih hrest, Line.isBlank_plain hl hplain, hl,
      Heading.underline?_plain hplain, Line.interrupts_plain hl hplain, tableAt?_prose ht hrest ms hms]

theorem read_first {d : Draft} (h : d.IsSound) (ms : List Line) :
    Opening.read (Line.fed d.first) (d.further.map Line.fed ++ Line.fed [] :: ms) = d.opening := by
  cases d with
  | heading d t =>
    obtain ⟨hd, ht⟩ := h
    have hhash : Heading.hashed? (Line.fed (heading d t).first).body = some (d, t) :=
      Heading.hashed?_write hd ht.strip_eq
    have hhead : ∃ r, (Line.fed (heading d t).first).body = '#' :: r := by
      obtain ⟨e, rfl⟩ : ∃ e, d = e + 1 := ⟨d - 1, by omega⟩
      exact ⟨_, rfl⟩
    have htitle : (Line.fed (heading d t).first).isTitle = true :=
      Line.isTitle_iff.mpr ⟨hhead, by rw [hhash]; rfl⟩
    exact Opening.read_of_isTitle htitle hhash _
  | code n t =>
    obtain ⟨hn, -, -⟩ := h
    have hfence : Fence.opening? (Line.fed (code n t).first).body = some (Fence.ticks n, []) :=
      Fence.opening?_replicate hn
    exact Opening.read_of_opening _ hfence
  | table header rows =>
    obtain ⟨hne, hheader, -⟩ := h
    have hl : (Line.fed (Row.write header)).body = '|' :: (Row.write header).tail := rfl
    have htable := tableHead?_write hne hheader
    rw [first, Line.read_plain hl Text.isPlain_pipe]
    simp [further, tableAt?, Line.fed, htable, opening]
  | rule => rfl
  | paragraph l ls =>
    have hl := h l (by simp)
    have hls : ∀ u ∈ ls, u.IsProse := fun u hu => h u (List.mem_cons_of_mem l hu)
    have htable := tableAt?_prose hl hls (Line.fed [] :: ms) (by simp)
    obtain ⟨c, r, hbody, hc⟩ := hl.exists_cons
    rw [Line.read_plain hbody (Text.isPlain_of_isAlpha hc)]
    simp [further, first, htable, opening]

theorem closedBy_pieces {n : Nat} {t : Text} (ht : ∀ k, List.replicate k '`' <:+: t → k < n) :
    ∀ l ∈ (Text.pieces '\n' t).map Line.fed, (Fence.ticks n).closedBy l.body = false := by
  intro l hl
  obtain ⟨p, hp, rfl⟩ := List.mem_map.mp hl
  exact Fence.closedBy_eq_false fun k hk => ht k (hk.trans (Text.infix_of_mem_pieces _ hp))

theorem extent_further {d : Draft} (h : d.IsSound) (ms : List Line) :
    d.opening.extent (d.further.map Line.fed ++ Line.fed [] :: ms) = d.further.length := by
  cases d with
  | heading d t => rfl
  | rule => rfl
  | code n t =>
    obtain ⟨-, -, ht⟩ := h
    have hclosed : (Fence.ticks n).closedBy (Line.fed (List.replicate n '`')).body = true :=
      Fence.closedBy_replicate n
    simp [opening, further, Opening.extent,
      Extent.fenced_of_closed (closedBy_pieces ht) hclosed (Line.fed [] :: ms)]
  | table header rows =>
    simpa [opening, further, Opening.extent, Function.comp_def] using rows_write rows ms
  | paragraph l ls =>
    have hls : ∀ u ∈ ls, u.IsProse := fun u hu => h u (List.mem_cons_of_mem l hu)
    have hextent := paragraph_prose hls (Line.fed [] :: ms) (by simp)
    simp [opening, further, Opening.extent, hextent]

theorem content_further {d : Draft} (h : d.IsSound) :
    d.opening.content (Line.fed d.first) (d.further.map Line.fed) = d.content := by
  cases d with
  | heading d t => rfl
  | rule => rfl
  | code n t =>
    obtain ⟨-, -, ht⟩ := h
    have hclosed : (Fence.ticks n).closedBy (Line.fed (List.replicate n '`')).body = true :=
      Fence.closedBy_replicate n
    have hbody : ((code n t).further.map Line.fed).takeWhile
        (fun l => !(Fence.ticks n).closedBy l.body) = (Text.pieces '\n' t).map Line.fed := by
      rw [further, List.map_append, List.takeWhile_append_of_pos]
      · simp [hclosed]
      · intro l hl
        rw [closedBy_pieces ht l hl]
        rfl
    have hcolumns : Text.dropColumns (Fence.ticks n).indent = id :=
      funext Text.dropColumns_zero
    simp only [opening, Opening.content, hbody, hcolumns, content]
    simp [Text.unlines, Function.comp_def, Line.fed, Text.joinWith_pieces]
  | table header rows =>
    obtain ⟨hne, -, hrows⟩ := h
    have hcells : ∀ r ∈ rows, (Row.cells (Row.write r)).take header.length = r := by
      intro r hr
      obtain ⟨hlength, hr⟩ := hrows r hr
      have hrne : r ≠ [] := by
        rw [← List.length_pos_iff, hlength]
        exact List.length_pos_iff.mpr hne
      rw [Row.cells_write hrne hr, ← hlength, List.take_length]
    have hmap := (List.map_congr_left hcells).trans (List.map_id' rows)
    simpa [opening, further, Opening.content, content, Function.comp_def, Line.fed] using hmap
  | paragraph l ls =>
    have hls : ∀ u ∈ ls, u.IsProse := fun u hu => h u (List.mem_cons_of_mem l hu)
    have hextent := paragraph_prose hls [] (by simp)
    rw [List.append_nil] at hextent
    have hstripped : ∀ u ∈ l :: ls, (Line.fed u).stripped = u := fun u hu => (h u hu).1.strip_eq
    have hmap := (List.map_congr_left hstripped).trans (List.map_id' (l :: ls))
    simp only [opening, further, first, Opening.content, hextent, content]
    simpa [Function.comp_def] using congrArg Text.unlines hmap

theorem isBlank_first {d : Draft} (h : d.IsSound) : (Line.fed d.first).isBlank = false := by
  by_contra hb
  have hread := read_first h []
  rw [Opening.read, if_pos (by simpa using hb)] at hread
  cases d <;> cases hread

/-- The lines of a block, and the blank line behind it. -/
def bodies (d : Draft) : List Text := d.first :: (d.further ++ [[]])

theorem flatMap_bodies (d : Draft) : d.bodies.flatMap (· ++ ['\n']) = d.write ++ ['\n'] := by
  rw [bodies, write_eq, ← List.cons_append, List.flatMap_append]
  rfl

theorem notMem_bodies {d : Draft} (h : d.IsSound) : ∀ b ∈ d.bodies, '\r' ∉ b ∧ '\n' ∉ b := by
  cases d with
  | heading d t =>
    obtain ⟨-, -, hcr, hlf⟩ := h
    simp [bodies, first, further, hcr, hlf]
  | code n t =>
    obtain ⟨-, ht, -⟩ := h
    have hpieces : ∀ p ∈ Text.pieces '\n' t, '\r' ∉ p ∧ '\n' ∉ p := fun p hp =>
      ⟨fun hcr => ht ((Text.infix_of_mem_pieces _ hp).subset hcr), Text.sep_notMem_of_mem_pieces _ hp⟩
    intro b hb
    simp only [bodies, first, further, List.mem_cons, List.mem_append, List.not_mem_nil,
      or_false] at hb
    rcases hb with rfl | (hb | rfl) | rfl
    · simp
    · exact hpieces b hb
    · simp
    · simp
  | table header rows =>
    obtain ⟨-, hheader, hrows⟩ := h
    have hwrite : ∀ cs : List Text, (∀ c ∈ cs, Row.IsCell c) →
        '\r' ∉ Row.write cs ∧ '\n' ∉ Row.write cs := fun cs hcs =>
      ⟨Row.notMem_write (by decide) fun c hc => (hcs c hc).cr_notMem,
        Row.notMem_write (by decide) fun c hc => (hcs c hc).lf_notMem⟩
    intro b hb
    simp only [bodies, first, further, List.mem_cons, List.mem_append, List.mem_map,
      List.not_mem_nil, or_false] at hb
    rcases hb with rfl | (rfl | ⟨r, hr, rfl⟩) | rfl
    · exact hwrite header hheader
    · exact hwrite _ fun c hc => (List.mem_replicate.mp hc).2 ▸ isCell_delimiter
    · exact hwrite r (hrows r hr).2
    · simp
  | rule => decide
  | paragraph l ls =>
    intro b hb
    have hb : b ∈ l :: ls ∨ b = [] := by simpa [bodies, first, further, or_assoc] using hb
    rcases hb with hb | rfl
    · exact ⟨(h b hb).1.cr_notMem, (h b hb).1.lf_notMem⟩
    · simp

theorem isBlank_head_bodies {ds : List Draft} (h : ∀ d ∈ ds, d.IsSound) :
    ∀ l ∈ ((ds.flatMap bodies).map Line.fed).head?, l.isBlank = false := by
  cases ds with
  | nil => simp
  | cons d ds =>
    rintro l ⟨⟩
    exact isBlank_first (h d (by simp))

theorem reach_blank {ms : List Line} (h : ∀ l ∈ ms.head?, l.isBlank = false) :
    Token.reach (Line.fed []) ms = 0 := by
  cases ms with
  | nil => rfl
  | cons m ms =>
    have hm := h m rfl
    have hread : Opening.read (Line.fed []) (m :: ms) = .space := rfl
    simp [Token.reach, hread, Opening.extent, Extent.space, hm]

theorem reads_bodies {d : Draft} (h : d.IsSound) {ms rest : List Line} {ts : List Token}
    (hms : ∀ l ∈ ms.head?, l.isBlank = false) (hr : Token.Reads ms ts rest) :
    Token.Reads (d.bodies.map Line.fed ++ ms)
      (.mk d.write d.content :: .mk ['\n'] .space :: ts) rest := by
  have hblank : Token.Reads (Line.fed [] :: ms) (.mk ['\n'] .space :: ts) rest := by
    have hreach := reach_blank hms
    have hfirst : Token.first (Line.fed []) ms = .mk ['\n'] .space := by
      rw [Token.first, hreach]
      rfl
    rw [← hfirst]
    exact .step (by rwa [hreach])
  have hreach : Token.reach (Line.fed d.first) (d.further.map Line.fed ++ Line.fed [] :: ms) =
      (d.further.map Line.fed).length := by
    rw [Token.reach, read_first h, extent_further h, List.length_map]
  have hfirst : Token.first (Line.fed d.first) (d.further.map Line.fed ++ Line.fed [] :: ms) =
      .mk d.write d.content := by
    rw [Token.first, hreach, List.take_left, read_first h, Token.ofLines, content_further h,
      ← List.map_cons, Line.joined_fed, write_eq]
  have hlines : d.bodies.map Line.fed ++ ms =
      Line.fed d.first :: (d.further.map Line.fed ++ Line.fed [] :: ms) := by
    simp [bodies]
  rw [hlines, ← hfirst]
  exact .step (by rwa [hreach, List.drop_left])

end Draft

/-- A document written from blocks reads back as these blocks, each with a blank line behind it. -/
theorem Draft.ofText_write {ds : List Draft} (h : ∀ d ∈ ds, d.IsSound) :
    Token.ofText (ds.flatMap fun d => d.write ++ ['\n']) =
      ds.flatMap fun d => [.mk d.write d.content, .mk ['\n'] .space] := by
  have hreads : Token.Reads ((ds.flatMap bodies).map Line.fed)
      (ds.flatMap fun d => [.mk d.write d.content, .mk ['\n'] .space]) [] := by
    induction ds with
    | nil => exact .done []
    | cons d ds ih =>
      have hds : ∀ e ∈ ds, e.IsSound := fun e he => h e (List.mem_cons_of_mem d he)
      rw [List.flatMap_cons, List.map_append]
      exact reads_bodies (h d (by simp)) (isBlank_head_bodies hds) (ih hds)
  have hcut : Line.AreCut ((ds.flatMap bodies).map Line.fed) := by
    refine Line.areCut_fed fun b hb => ?_
    obtain ⟨d, hd, hb⟩ := List.mem_flatMap.mp hb
    exact notMem_bodies (h d hd) b hb
  have hjoined : Line.joined ((ds.flatMap bodies).map Line.fed) =
      ds.flatMap fun d => d.write ++ ['\n'] := by
    rw [Line.joined_fed, List.flatMap_assoc]
    exact List.flatMap_congr fun d _ => flatMap_bodies d
  rw [Token.ofText, ← hjoined, Text.lines_joined hcut]
  exact Token.reads_nil_iff.mp hreads

/-- Hashes at both ends of a heading, block syntax in code, and escaped pipes. -/
theorem Draft.ofText_write_all :
    let ds := [heading 2 "# a #".toList, code 4 "# b\n```\n\n".toList,
      table ["|".toList, [], "c\\\\|\\".toList] [["d".toList, "-".toList, "*".toList]], rule,
      paragraph "e =".toList ["f".toList], heading 6 []]
    (∀ d ∈ ds, d.IsSound) ∧
      Token.ofText (ds.flatMap fun d => d.write ++ ['\n']) =
        ds.flatMap fun d => [.mk d.write d.content, .mk ['\n'] .space] := by
  intro ds
  have hds : ∀ d ∈ ds, d.IsSound := by decide
  exact ⟨hds, ofText_write hds⟩

end Excerpt
