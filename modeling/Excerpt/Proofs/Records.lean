import Excerpt.Proofs.Borders
import Excerpt.Proofs.Tiling
import Excerpt.Selection.Record

/-!
Records of tables. Each line of a table below its two head lines makes one record, in the order of the
lines; a record has each header once, with the cell of the last column that bears it.
-/

namespace Excerpt

namespace Record

/-- A record that says what the cells of a row are: it has the headers in the order of their first
columns, and under each the cell of its last column, or an empty one where the row is too short. -/
structure Says (header cells : List Text) (r : Record) : Prop where
  keys_eq : r.map Prod.fst = header.eraseDups
  lookup_eq : ∀ (i : Nat) (name : Text), header[i]? = some name →
    (∀ j, i < j → header[j]? ≠ some name) → r.lookup name = some (cells[i]?.getD [])

section Put

variable (name value : Text) (r : Record)

theorem keys_put :
    (put name value r).map Prod.fst =
      if name ∈ r.map Prod.fst then r.map Prod.fst else r.map Prod.fst ++ [name] := by
  induction r with
  | nil => rfl
  | cons e r ih =>
    obtain ⟨n, v⟩ := e
    by_cases hn : n = name
    · simp [put, hn]
    · have hn' : ¬ name = n := fun h => hn h.symm
      simp only [put, beq_iff_eq, hn, if_false, List.map_cons, ih, List.mem_cons, hn', false_or]
      split <;> rfl

theorem lookup_cons (other : Text) :
    List.lookup other ((name, value) :: r) =
      if other = name then some value else r.lookup other := by
  by_cases h : other = name
  · simp [h]
  · rw [List.lookup_cons, beq_false_of_ne h, if_neg h]

theorem lookup_put (other : Text) :
    (put name value r).lookup other = if other = name then some value else r.lookup other := by
  induction r with
  | nil => exact lookup_cons name value [] other
  | cons e r ih =>
    obtain ⟨n, v⟩ := e
    by_cases hn : n = name
    · subst hn
      simp only [put, beq_self_eq_true, if_true, lookup_cons]
      split <;> rfl
    · simp only [put, beq_iff_eq, hn, if_false, lookup_cons, ih]
      by_cases ho : other = n
      · simp [ho, hn]
      · simp [ho]

end Put

theorem fill_cons (r : Record) (name : Text) (names cells : List Text) :
    fill r (name :: names) cells = fill (put name (cells.head?.getD []) r) names cells.tail := by
  cases cells <;> rfl

/-- The headers that are new come behind those that are there, each once. -/
theorem keys_fill (r : Record) (names cells : List Text) :
    (fill r names cells).map Prod.fst =
      r.map Prod.fst ++ (names.filter fun n => n ∉ r.map Prod.fst).eraseDups := by
  induction names generalizing r cells with
  | nil => simp [fill]
  | cons name names ih =>
    rw [fill_cons, ih, keys_put]
    split
    · rename_i hmem
      rw [List.filter_cons_of_neg (by simpa using hmem)]
    · rename_i hmem
      have hrest : (names.filter fun n => n ∉ r.map Prod.fst ++ [name]) =
          (names.filter fun n => n ∉ r.map Prod.fst).filter fun n => !n == name := by
        rw [List.filter_filter]
        refine List.filter_congr fun n _ => ?_
        rw [Bool.eq_iff_iff]
        simp [and_comm]
      rw [hrest, List.filter_cons_of_pos (by simpa using hmem), List.eraseDups_cons,
        List.append_assoc, List.singleton_append]

theorem lookup_fill_of_notMem {names : List Text} {name : Text} (h : name ∉ names) (r : Record)
    (cells : List Text) : (fill r names cells).lookup name = r.lookup name := by
  induction names generalizing r cells with
  | nil => rfl
  | cons n names ih =>
    obtain ⟨hne, hnot⟩ := List.ne_and_not_mem_of_not_mem_cons h
    rw [fill_cons, ih hnot, lookup_put, if_neg hne]

theorem lookup_fill {names : List Text} {name : Text} {i : Nat} (hi : names[i]? = some name)
    (hlast : ∀ j, i < j → names[j]? ≠ some name) (r : Record) (cells : List Text) :
    (fill r names cells).lookup name = some (cells[i]?.getD []) := by
  induction names generalizing i r cells with
  | nil => simp at hi
  | cons n names ih =>
    rw [fill_cons]
    cases i with
    | zero =>
      obtain rfl : n = name := by simpa using hi
      have hnot : n ∉ names := by
        intro hmem
        obtain ⟨j, hj⟩ := List.mem_iff_getElem?.mp hmem
        exact hlast (j + 1) (Nat.succ_pos j) (by simpa using hj)
      rw [lookup_fill_of_notMem hnot, lookup_put, if_pos rfl, List.head?_eq_getElem?]
    | succ i =>
      have hlast' : ∀ j, i < j → names[j]? ≠ some name := fun j hj => by
        simpa using hlast (j + 1) (Nat.succ_lt_succ hj)
      rw [ih (by simpa using hi) hlast', List.getElem?_tail]

theorem says_ofRow (header cells : List Text) :
    Says header cells (ofRow header (cells.take header.length)) := by
  refine ⟨by simp [ofRow, keys_fill], fun i name hi hlast => ?_⟩
  have hlt : i < header.length := (List.getElem?_eq_some_iff.mp hi).1
  rw [ofRow, lookup_fill hi hlast, List.getElem?_take_of_lt hlt]

end Record

theorem tableHead?_eq_some {first second : Text} {header : List Text} {align : List (Option Align)}
    (h : tableHead? first second = some (header, align)) :
    header = Row.cells first ∧ (Row.cells second).all Align.isDelimiter = true := by
  unfold tableHead? at h
  dsimp only at h
  split at h
  · rename_i hhead
    simp only [Bool.and_eq_true] at hhead
    exact ⟨(Prod.mk.inj (Option.some.inj h)).1.symm, hhead.1.2⟩
  · cases h

namespace Token

/-- A table is its head line, its line of delimiters and its rows. -/
theorem lines_of_kind_table {source : Text} {t : Token} (ht : t ∈ ofText source)
    (hkind : t.kind = .table) :
    ∃ head delimiters rows align, Text.lines t.raw = head :: delimiters :: rows ∧
      (Row.cells delimiters.body).all Align.isDelimiter = true ∧
      t.content = .table (Row.cells head.body) align
        (rows.map fun l => (Row.cells l.body).take (Row.cells head.body).length) := by
  obtain ⟨l, ls, ⟨xs, hxs⟩, rfl⟩ := exists_suffix_first ht
  have hcut : Line.AreCut (l :: ls) := (hxs ▸ Text.lines_areCut source).right
  obtain ⟨header, align, hread⟩ := exists_of_kind_table hkind
  have hhead := Opening.read_table hread
  cases ls with
  | nil => cases hhead
  | cons m ls =>
    obtain ⟨rfl, hdelimiters⟩ := tableHead?_eq_some hhead
    have hreach : reach l (m :: ls) = Extent.rows ls + 1 := by rw [reach, hread]; rfl
    refine ⟨l, m, ls.take (Extent.rows ls), align, ?_, hdelimiters, ?_⟩
    · rw [lines_raw_first hcut, hreach, List.take_succ_cons]
    · rw [first, ofLines, content, hread, hreach, List.take_succ_cons]
      rfl

theorem says_records {source : Text} {t : Token} (ht : t ∈ ofText source) (hkind : t.kind = .table) :
    ∃ head delimiters rows, Text.lines t.raw = head :: delimiters :: rows ∧
      (Row.cells delimiters.body).all Align.isDelimiter = true ∧
      List.Forall₂ (fun l => Record.Says (Row.cells head.body) (Row.cells l.body)) rows
        t.records := by
  obtain ⟨head, delimiters, rows, align, hlines, hdelimiters, hcontent⟩ :=
    lines_of_kind_table ht hkind
  refine ⟨head, delimiters, rows, hlines, hdelimiters, ?_⟩
  simp only [records, hcontent, List.map_map, List.forall₂_map_right_iff, List.forall₂_same]
  exact fun l _ => Record.says_ofRow _ _

theorem records_eq_nil {t : Token} (h : t.kind ≠ .table) : t.records = [] := by
  cases t with
  | mk r c => cases c <;> simp_all [kind, content, Content.kind, records]

end Token

namespace Selection

open Passage

theorem token_mem_or_kind_eq_item {source : Text} {ss : List Segment} {p : Passage}
    (hp : p ∈ ((ofText source).query ss).passages) :
    p.token ∈ Token.ofText source ∨ p.token.kind = .item := by
  rcases among_of_mem_query hp with (hindex | hitem) | hsection
  · exact .inl (token_mem_of_mem_consecutive hindex)
  · obtain ⟨q, hq, hmem, -⟩ := exists_of_mem_items hitem
    exact .inr (Token.kind_of_mem_items (token_mem_of_mem_consecutive hq) _ hmem)
  · exact .inl hsection.token_mem

theorem records_eq_flatMap_filter (s : Selection) :
    s.records = (s.passages.filter fun p => p.token.kind == .table).flatMap
      fun p => p.token.records := by
  rw [records]
  induction s.passages with
  | nil => rfl
  | cons p ps ih =>
    rw [List.flatMap_cons, ih]
    by_cases hkind : p.token.kind = .table
    · rw [List.filter_cons_of_pos (by simpa using hkind), List.flatMap_cons]
    · rw [List.filter_cons_of_neg (by simpa using hkind), Token.records_eq_nil hkind,
        List.nil_append]

/-- The records of what a query finds are those of its tables, in the order in which it finds them. A
table has one record for each of its lines below the line of delimiters, in their order. -/
theorem records_query (source : Text) (ss : List Segment) :
    let found := (ofText source).query ss
    found.records = (found.passages.filter fun p => p.token.kind == .table).flatMap
      (fun p => p.token.records) ∧
    ∀ p ∈ found.passages, p.token.kind = .table →
      ∃ head delimiters rows, Text.lines p.token.raw = head :: delimiters :: rows ∧
        (Row.cells delimiters.body).all Align.isDelimiter = true ∧
        List.Forall₂ (fun l => Record.Says (Row.cells head.body) (Row.cells l.body)) rows
          p.token.records := by
  intro found
  refine ⟨records_eq_flatMap_filter found, fun p hp hkind => ?_⟩
  rcases token_mem_or_kind_eq_item hp with hmem | hitem
  · exact Token.says_records hmem hkind
  · simp [hitem] at hkind

theorem records_query_repeated :
    let scope : Segment := ⟨"section".toList, some (.scope none), none, none⟩
    let table : Segment := ⟨"table".toList, some .table, none, none⟩
    let found := (ofText "# T\n|A|B|A|\n|-|-|-|\n|1|2|\n|3|4|5|6|\n".toList).query [scope, table]
    found.records = [[(['A'], []), (['B'], ['2'])], [(['A'], ['5']), (['B'], ['4'])]] ∧
      ∃ p ∈ found.passages, p.token.kind = .table ∧
        ∃ head delimiters rows, Text.lines p.token.raw = head :: delimiters :: rows ∧
          List.Forall₂ (fun l => Record.Says (Row.cells head.body) (Row.cells l.body)) rows
            p.token.records := by
  intro scope table found
  have hkinds : found.passages.map (fun p => p.token.kind) = [.table] := by decide +kernel
  have hrecords : found.records =
      [[(['A'], []), (['B'], ['2'])], [(['A'], ['5']), (['B'], ['4'])]] := by decide +kernel
  obtain ⟨p, ps, hp, hkind, -⟩ := List.map_eq_cons_iff.mp hkinds
  have hmem : p ∈ found.passages := hp ▸ List.mem_cons_self
  obtain ⟨head, delimiters, rows, hlines, -, hsays⟩ := (records_query _ _).2 p hmem hkind
  exact ⟨hrecords, p, hmem, hkind, head, delimiters, rows, hlines, hsays⟩

end Selection

end Excerpt
