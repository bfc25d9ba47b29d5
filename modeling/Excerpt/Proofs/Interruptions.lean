import Excerpt.Proofs.Items

/-!
Lists that cut running text short. An item may do so if it has text behind its marker and no number
other than one. Another item does so, too, where its line is the head of a table.
-/

namespace Excerpt

/-- Whether the first two lines of a text are the head of a table. -/
def Text.startsTable (t : Text) : Bool :=
  match Text.lines t with
  | [] => false
  | l :: ls => (tableAt? l ls).isSome

namespace Token

def start? (t : Token) : Option Nat :=
  match t.content with
  | .list start _ => start
  | _ => none

/-- A list that may cut running text short: on its first line its first item has text behind the
marker, and the number there, if it is one, is one. -/
def MayInterrupt (t : Token) : Prop :=
  ∃ item ∈ t.items.head?, ∃ l ∈ item.firstLine?, ∃ m ∈ Marker.read? l.body,
    m.content.all Text.isBlank = false ∧ (t.start? = none ∨ t.start? = some 1)

variable {l m : Line} {ls ms : List Line} {k : Marker}

theorem start?_first (h : Opening.read l ls = .list k) : (first l ls).start? = k.bullet.number? := by
  rw [start?, first, ofLines, content, h]
  rfl

theorem exists_items_first (hcut : Line.AreCut (l :: ls)) (h : Opening.read l ls = .list k) :
    ∃ item ∈ (first l ls).items.head?, item.firstLine? = some l := by
  obtain ⟨own, others, hparts⟩ : ∃ own others,
      (Opening.list k).parts l (ls.take (reach l ls)) = (l, own) :: others := ⟨_, _, rfl⟩
  have hmem : (l, own) ∈ (Opening.list k).parts l (ls.take (reach l ls)) := by simp [hparts]
  exact ⟨ofItem l own, by simp [items_first, h, hparts],
    firstLine?_ofItem (areCut_of_mem_parts h hcut hmem)⟩

theorem mayInterrupt_iff (hcut : Line.AreCut (l :: ls)) (h : Opening.read l ls = .list k) :
    (first l ls).MayInterrupt ↔ l.opensItem = true := by
  obtain ⟨item, hitem, hline⟩ := exists_items_first hcut h
  have hmarker := Opening.read_list h
  rw [Option.mem_def] at hitem
  simp [MayInterrupt, hitem, hline, hmarker, start?_first h, Line.opensItem]

end Token

theorem Line.interrupts_of_read_list {l : Line} {ls : List Line} {k : Marker}
    (h : Opening.read l ls = .list k) :
    l.interrupts ls = true ↔ l.opensItem = true ∨ (tableAt? l ls).isSome = true := by
  have hblock := Opening.opensBlock_of_read (.inl ⟨k, h⟩)
  have hindent := Marker.isIndented_eq_false (Opening.read_list h)
  simp [interrupts, hblock, hindent]

namespace Token

variable {l m : Line} {ls ms : List Line} {k : Marker}

theorem opensItem_or_tableAt? (h : ls.drop (reach l ls) = m :: ms)
    (hkind : (first l ls).kind ∈ [.paragraph, .quote, .table]) (hk : Opening.read m ms = .list k) :
    m.opensItem = true ∨ (first l ls).kind ≠ .table ∧ (tableAt? m ms).isSome = true := by
  have hblank : m.isBlank = false := by
    by_contra hb
    simp [Opening.read_of_isBlank (Bool.not_eq_false _ |>.mp hb)] at hk
  by_cases htable : (first l ls).kind = .table
  · obtain ⟨header, align, hr⟩ := exists_of_kind_table htable
    rcases table_stops hr h with hb | hblock | hitem
    · simp [hb] at hblank
    · simp [Opening.opensBlock_of_read (.inl ⟨k, hk⟩)] at hblock
    · exact .inl hitem
  · rcases isBlank_or_interrupts h hkind with hb | hi
    · simp [hb] at hblank
    · exact ((Line.interrupts_of_read_list hk).mp hi).imp_right fun ht => ⟨htable, ht⟩

theorem exists_lines_of_ofText {source : Text} {us vs : List Token} {t u : Token}
    (h : ofText source = us ++ t :: u :: vs) :
    ∃ l ls m ms, Line.AreCut (l :: ls) ∧ ls.drop (reach l ls) = m :: ms ∧ t = first l ls ∧
      u = first m ms ∧ Text.lines (source.drop (span (us ++ [t]))) = m :: ms := by
  obtain ⟨xs, ys, hlines, -, hys, -⟩ := reads_of_ofText h
  have hcut := Text.lines_areCut source
  rw [hlines] at hcut
  cases ys with
  | nil => simp [blocks_nil] at hys
  | cons l ls =>
    rw [blocks_cons, List.cons.injEq] at hys
    cases hrest : ls.drop (reach l ls) with
    | nil => simp [hrest, blocks_nil] at hys
    | cons m ms =>
      have hnext : Line.AreCut (m :: ms) := hrest ▸ (areCut_reach hcut.right).2
      have hblocks := hys.2
      rw [hrest] at hblocks
      have hu : first m ms = u := by
        rw [blocks_cons] at hblocks
        exact (List.cons.inj hblocks).1
      refine ⟨l, ls, m, ms, hcut.right, hrest, hys.1.symm, hu.symm, ?_⟩
      have hsplit : ofText source = (us ++ [t]) ++ u :: vs := by simp [h]
      rw [drop_span hsplit, ← hblocks, flatMap_raw_blocks, Text.lines_joined hnext]

/-- A list right behind running text has text in its first item and does not start at another number
than one, unless its first line is the head of a table, with the line behind it. Behind a table it
always is so. -/
theorem mayInterrupt_of_ofText {source : Text} {us vs : List Token} {t u : Token}
    (h : ofText source = us ++ t :: u :: vs) (ht : t.kind ∈ [.paragraph, .quote, .table])
    (hu : u.kind = .list) :
    u.MayInterrupt ∨
      t.kind ≠ .table ∧ Text.startsTable (source.drop (span (us ++ [t]))) = true := by
  obtain ⟨l, ls, m, ms, hcut, hrest, rfl, rfl, hlines⟩ := exists_lines_of_ofText h
  obtain ⟨k, hk⟩ := exists_of_kind_list hu
  have hnext : Line.AreCut (m :: ms) := hrest ▸ (areCut_reach hcut).2
  rw [mayInterrupt_iff hnext hk, Text.startsTable, hlines]
  exact opensItem_or_tableAt? hrest ht hk

theorem mayInterrupt_of_ofText_numbered :
    let source := "x\n1. y\n".toList
    ∃ t u, ofText source = [] ++ t :: u :: [] ∧ t.kind = .paragraph ∧ u.kind = .list ∧
      (u.MayInterrupt ∨
        t.kind ≠ .table ∧ Text.startsTable (source.drop (span ([] ++ [t]))) = true) := by
  intro source
  have hkinds : (ofText source).map kind = [.paragraph, .list] := by decide +kernel
  obtain ⟨t, rest, htokens, ht, hrest⟩ := List.map_eq_cons_iff.mp hkinds
  obtain ⟨u, vs, rfl, hu, hvs⟩ := List.map_eq_cons_iff.mp hrest
  obtain rfl : vs = [] := List.map_eq_nil_iff.mp hvs
  exact ⟨t, u, htokens, ht, hu, mayInterrupt_of_ofText htokens (by simp [ht]) hu⟩

/-- The head of a table cuts a paragraph short and opens a list, which starts at two. -/
theorem exists_not_mayInterrupt :
    let source := "x\n2. a | b\n--|--\n".toList
    ∃ t u, ofText source = [t, u] ∧ t.kind = .paragraph ∧ u.kind = .list ∧ ¬ u.MayInterrupt := by
  intro source
  have hkinds : (ofText source).map (fun t => (t.kind, t.start?)) =
      [(.paragraph, none), (.list, some 2)] := by decide +kernel
  obtain ⟨t, rest, htokens, ht, hrest⟩ := List.map_eq_cons_iff.mp hkinds
  obtain ⟨u, vs, rfl, hu, hvs⟩ := List.map_eq_cons_iff.mp hrest
  obtain rfl : vs = [] := List.map_eq_nil_iff.mp hvs
  obtain ⟨hkind, hstart⟩ := Prod.mk.inj hu
  refine ⟨t, u, htokens, (Prod.mk.inj ht).1, hkind, ?_⟩
  rintro ⟨-, -, -, -, -, -, -, hone⟩
  simp [hstart] at hone

end Token

end Excerpt
