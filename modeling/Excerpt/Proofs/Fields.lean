import Excerpt.Proofs.Interruptions
import Excerpt.Proofs.Records
import Excerpt.Proofs.Rows

/-!
Fields of the blocks of a document. What the kind of a block does not have is left out, what it has is
within its bounds, and no text that is taken from a line holds a carriage return.
-/

namespace Excerpt

theorem Heading.underline?_le {line : Text} {d : Nat} (h : underline? line = some d) :
    1 ≤ d ∧ d ≤ 2 := by
  unfold underline? at h
  split at h
  · split at h
    · rw [← Option.some.inj h]
      split <;> decide
    · contradiction
  · contradiction

theorem Extent.paragraph_depth_le {ls : List Line} {d : Nat} (h : (paragraph ls).2 = some d) :
    1 ≤ d ∧ d ≤ 2 := by
  induction ls with
  | nil => cases h
  | cons l ls ih =>
    rw [paragraph] at h
    by_cases hb : l.isBlank
    · simp [hb] at h
    cases hu : Heading.underline? l.body with
    | some e =>
      obtain rfl : e = d := by simpa [hb, hu] using h
      exact Heading.underline?_le hu
    | none =>
      by_cases hi : l.interrupts ls
      · simp [hb, hu, hi] at h
      · exact ih (by simpa [hb, hu, hi] using h)

theorem tableHead?_lengths {first second : Text} {header : List Text} {align : List (Option Align)}
    (h : tableHead? first second = some (header, align)) : align.length = header.length := by
  unfold tableHead? at h
  dsimp only at h
  split at h
  · rename_i hhead
    simp only [Bool.and_eq_true, beq_iff_eq] at hhead
    obtain ⟨rfl, rfl⟩ := Prod.mk.inj (Option.some.inj h)
    rw [List.length_map, hhead.2]
  · contradiction

theorem tableAt?_eq_some {l : Line} {ls : List Line} {header : List Text}
    {align : List (Option Align)} (h : tableAt? l ls = some (header, align)) :
    header = Row.cells l.body ∧ align.length = header.length := by
  cases ls with
  | nil => cases h
  | cons m ls => exact ⟨(tableHead?_eq_some h).1, tableHead?_lengths h⟩

theorem Opening.read_fenced_info {l : Line} {ls : List Line} {f : Fence} {info : Text}
    (h : read l ls = fenced f info) :
    ∃ s, Fence.opening? l.body = some (f, s) ∧ info = Text.strip s := by
  obtain ⟨s, hs⟩ := read_fenced h
  rw [read_of_opening ls hs, fenced.injEq] at h
  exact ⟨s, hs, h.2.symm⟩

namespace Token

/-- All texts among the fields. -/
def Fields.texts (f : Fields) : List Text := f.text :: (f.info.toList ++ f.header ++ f.rows.flatten)

/-- Fields as the kind of the token has them. -/
structure IsRegular (t : Token) : Prop where
  heading : t.kind = .heading → ∃ d, t.fields.depth = some d ∧ 1 ≤ d ∧ d ≤ 6
  table : t.kind = .table →
    t.fields.header ≠ [] ∧ t.fields.align.length = t.fields.header.length ∧
      ∀ row ∈ t.fields.rows, 1 ≤ row.length ∧ row.length ≤ t.fields.header.length
  list : t.kind = .list →
    t.fields.items ≠ [] ∧ (∀ u ∈ t.fields.items, u.kind = .item ∧ u.fields.items = []) ∧
      (t.fields.ordered = true ↔ t.fields.start.isSome = true) ∧
      ∀ n ∈ t.fields.start, n ≤ 999999999
  no_depth : t.kind ≠ .heading → t.fields.depth = none
  no_cells : t.kind ≠ .table → t.fields.header = [] ∧ t.fields.rows = [] ∧ t.fields.align = []
  no_items : t.kind ≠ .list →
    t.fields.items = [] ∧ t.fields.ordered = false ∧ t.fields.start = none
  no_info : t.kind ≠ .code → t.fields.info = none
  no_check : t.kind ≠ .item → t.fields.checked = none
  no_return : ∀ s ∈ t.fields.texts, '\r' ∉ s

theorem fields_depth (t : Token) : t.fields.depth = t.depth? := by
  obtain ⟨r, c⟩ := t
  cases c <;> rfl

theorem fields_items (t : Token) : t.fields.items = t.items := by
  obtain ⟨r, c⟩ := t
  cases c <;> rfl

theorem fields_start (t : Token) : t.fields.start = t.start? := by
  obtain ⟨r, c⟩ := t
  cases c <;> rfl

theorem fields_ordered (t : Token) : t.fields.ordered = t.fields.start.isSome := by
  obtain ⟨r, c⟩ := t
  cases c <;> rfl

/-- A token is regular by its own fields: the others have their defaults. -/
theorem IsRegular.of_own {t : Token}
    (heading : t.kind = .heading → ∃ d, t.depth? = some d ∧ 1 ≤ d ∧ d ≤ 6)
    (table : t.kind = .table →
      t.fields.header ≠ [] ∧ t.fields.align.length = t.fields.header.length ∧
        ∀ row ∈ t.fields.rows, 1 ≤ row.length ∧ row.length ≤ t.fields.header.length)
    (list : t.kind = .list →
      t.items ≠ [] ∧ (∀ u ∈ t.items, u.kind = .item) ∧ ∀ n ∈ t.start?, n ≤ 999999999)
    (no_return : ∀ s ∈ t.fields.texts, '\r' ∉ s) : t.IsRegular := by
  rw [← fields_depth] at heading
  rw [← fields_items, ← fields_start] at list
  have hitems : ∀ u ∈ t.fields.items, u.kind = .item → u.fields.items = [] := by
    intro u _ hu
    rw [fields_items]
    exact items_eq_nil (by rw [hu]; decide)
  refine ⟨heading, table, fun h => ?_, ?_, ?_, ?_, ?_, ?_, no_return⟩
  · obtain ⟨hne, hkinds, hstart⟩ := list h
    refine ⟨hne, fun u hu => ⟨hkinds u hu, hitems u hu (hkinds u hu)⟩, ?_, hstart⟩
    rw [fields_ordered]
  all_goals
    obtain ⟨r, c⟩ := t
    cases c <;> simp [fields, kind, content, Content.kind]

section Texts

variable {c : Char} (hc : c ≠ '\n')
include hc

theorem notMem_unlines_map {f : Line → Text} {ls : List Line} (h : ∀ l ∈ ls, c ∉ f l) :
    c ∉ Text.unlines (ls.map f) := by
  refine Text.notMem_unlines hc fun t ht => ?_
  obtain ⟨l, hl, rfl⟩ := List.mem_map.mp ht
  exact h l hl

theorem notMem_itemText {m : Marker} {ls : List Line} (hm : c ∉ m.content)
    (h : ∀ l ∈ ls, c ∉ l.body) : c ∉ m.itemText ls := by
  refine Text.notMem_of_sublist (Text.strip_sublist _) (Text.notMem_unlines hc ?_)
  refine List.forall_mem_cons.mpr ⟨hm, fun t ht => ?_⟩
  obtain ⟨l, hl, rfl⟩ := List.mem_map.mp ht
  split
  · exact Text.notMem_of_sublist (Text.dropColumnsFrom_sublist _ _ _) (h l hl)
  · exact Text.notMem_of_sublist (Text.strip_sublist _) (h l hl)

variable {l : Line} {ls ms : List Line} (h : ∀ m ∈ l :: ls, c ∉ m.body)
include h

theorem notMem_stripped (hms : ms ⊆ l :: ls) :
    c ∉ Text.unlines (ms.map Line.stripped) :=
  notMem_unlines_map hc fun m hm => Text.notMem_of_sublist (Text.strip_sublist _) (h m (hms hm))

theorem notMem_texts_ofItem : ∀ s ∈ (ofItem l ls).fields.texts, c ∉ s := by
  intro s hs
  obtain rfl := List.mem_singleton.mp hs
  refine Text.notMem_of_sublist (readCheckbox_sublist _) ?_
  split
  · rename_i m hm
    have hcontent : c ∉ m.content :=
      Text.notMem_of_sublist (Marker.content_sublist hm) (h l List.mem_cons_self)
    exact notMem_itemText hc hcontent fun x hx => h x (List.mem_cons_of_mem l hx)
  · exact Text.notMem_of_sublist (Text.strip_sublist _) (notMem_stripped hc h (List.Subset.refl _))

theorem notMem_texts_content {o : Opening} (ho : o = Opening.read l ms) (raw : Text) :
    ∀ s ∈ (mk raw (o.content l ls)).fields.texts, c ∉ s := by
  cases o with
  | space | rule | list m =>
    intro s hs
    obtain rfl := List.mem_singleton.mp hs
    exact List.not_mem_nil
  | heading d t =>
    intro s hs
    obtain rfl := List.mem_singleton.mp hs
    obtain ⟨-, hsublist⟩ := Heading.of_hashed? (Opening.read_heading ho.symm)
    exact Text.notMem_of_sublist hsublist (h l List.mem_cons_self)
  | fenced f info =>
    obtain ⟨s, hs, rfl⟩ := Opening.read_fenced_info ho.symm
    have hinfo : c ∉ Text.firstWord (Text.strip s) :=
      Text.notMem_of_sublist ((Text.firstWord_sublist _).trans (Text.strip_sublist s))
        (Text.notMem_of_sublist (Fence.info_sublist hs) (h l List.mem_cons_self))
    have htext (body : List Line) (hbody : body ⊆ ls) :
        c ∉ Text.unlines (body.map fun m => Text.dropColumns f.indent m.body) :=
      notMem_unlines_map hc fun m hm =>
        Text.notMem_of_sublist (Text.dropColumnsFrom_sublist _ _ _)
          (h m (List.mem_cons_of_mem l (hbody hm)))
    intro t ht
    rcases List.mem_cons.mp ht with rfl | ht
    · exact htext _ (List.takeWhile_sublist _).subset
    · obtain ⟨-, rfl⟩ : Text.strip s ≠ [] ∧ Text.firstWord (Text.strip s) = t := by
        simpa [fields, content, Opening.content] using ht
      exact hinfo
  | indented =>
    intro s hs
    obtain rfl := List.mem_singleton.mp hs
    exact notMem_unlines_map hc fun m hm =>
      Text.notMem_of_sublist (Text.dropColumnsFrom_sublist _ _ _) (h m hm)
  | quote =>
    intro s hs
    obtain rfl := List.mem_singleton.mp hs
    refine Text.notMem_of_sublist (Text.strip_sublist _) (notMem_unlines_map hc fun m hm => ?_)
    cases hq : quoted? m.body with
    | none => exact Text.notMem_of_sublist (Text.strip_sublist _) (h m hm)
    | some t => exact Text.notMem_of_sublist (quoted?_sublist hq) (h m hm)
  | table header align =>
    obtain ⟨rfl, -⟩ := tableAt?_eq_some (Opening.read_table ho.symm)
    have hcell {m : Line} (hm : m ∈ l :: ls) : ∀ t ∈ Row.cells m.body, c ∉ t :=
      fun t ht => Text.notMem_of_sublist (Row.sublist_of_mem_cells ht) (h m hm)
    intro s hs
    rcases List.mem_cons.mp hs with rfl | hs
    · exact List.not_mem_nil
    · rcases List.mem_append.mp hs with hs | hs
      · exact hcell List.mem_cons_self s hs
      · obtain ⟨row, hrow, hs⟩ := List.mem_flatten.mp hs
        obtain ⟨m, hm, rfl⟩ := List.mem_map.mp hrow
        exact hcell (List.mem_cons_of_mem l (List.mem_of_mem_tail hm)) s (List.mem_of_mem_take hs)
  | paragraph =>
    intro s hs
    simp only [Opening.content] at hs
    cases hd : (Extent.paragraph ls).2 with
    | none =>
      rw [hd] at hs
      obtain rfl := List.mem_singleton.mp hs
      exact notMem_stripped hc h (List.Subset.refl _)
    | some d =>
      rw [hd] at hs
      obtain rfl := List.mem_singleton.mp hs
      exact notMem_stripped hc h (List.cons_subset_cons l (List.dropLast_subset ls))

end Texts

section First

variable {l : Line} {ls : List Line}

theorem depth?_first_le : ∀ d ∈ (first l ls).depth?, 1 ≤ d ∧ d ≤ 6 := by
  intro d hd
  simp only [Option.mem_def, depth?, first, ofLines, content] at hd
  cases hr : Opening.read l ls with
  | heading e t =>
    obtain rfl : e = d := by simpa [hr, Opening.content] using hd
    exact (Heading.of_hashed? (Opening.read_heading hr)).1
  | paragraph =>
    simp only [hr, Opening.content] at hd
    cases he : (Extent.paragraph (ls.take (reach l ls))).2 with
    | none => simp [he] at hd
    | some e =>
      obtain rfl : e = d := by simpa [he] using hd
      obtain ⟨hpos, hle⟩ := Extent.paragraph_depth_le he
      exact ⟨hpos, Nat.le_trans hle (by decide)⟩
  | space | fenced | indented | rule | quote | list | table => simp [hr, Opening.content] at hd

theorem exists_depth_first (h : (first l ls).kind = .heading) :
    ∃ d, (first l ls).depth? = some d ∧ 1 ≤ d ∧ d ≤ 6 := by
  obtain ⟨d, hd⟩ := depth?_first (beq_iff_eq.mpr h)
  exact ⟨d, hd, depth?_first_le d hd⟩

theorem cells_first (h : (first l ls).kind = .table) :
    (first l ls).fields.header ≠ [] ∧
      (first l ls).fields.align.length = (first l ls).fields.header.length ∧
      ∀ row ∈ (first l ls).fields.rows,
        1 ≤ row.length ∧ row.length ≤ (first l ls).fields.header.length := by
  obtain ⟨header, align, hread⟩ := exists_of_kind_table h
  obtain ⟨hheader, halign⟩ := tableAt?_eq_some (Opening.read_table hread)
  have hne : header ≠ [] := hheader ▸ Row.cells_ne_nil l.body
  have hfields : (first l ls).fields =
      { header, align, rows := (ls.take (reach l ls)).tail.map fun m =>
          (Row.cells m.body).take header.length } := by
    rw [fields, first, ofLines, content, hread]
    rfl
  rw [hfields]
  refine ⟨hne, halign, fun row hrow => ?_⟩
  obtain ⟨m, -, rfl⟩ := List.mem_map.mp hrow
  have hheader_pos := List.length_pos_iff.mpr hne
  have hrow_pos := List.length_pos_iff.mpr (Row.cells_ne_nil m.body)
  rw [List.length_take]
  exact ⟨Nat.lt_min.mpr ⟨hheader_pos, hrow_pos⟩, Nat.min_le_left _ _⟩

theorem items_first_list (h : (first l ls).kind = .list) :
    (first l ls).items ≠ [] ∧ (∀ u ∈ (first l ls).items, u.kind = .item) ∧
      ∀ n ∈ (first l ls).start?, n ≤ 999999999 := by
  obtain ⟨k, hread⟩ := exists_of_kind_list h
  rw [start?_first hread, items_first, hread]
  refine ⟨List.cons_ne_nil _ _, fun u hu => ?_, Marker.number_le (Opening.read_list hread)⟩
  obtain ⟨x, -, rfl⟩ := List.mem_map.mp hu
  exact kind_ofItem _ _

variable (h : ∀ m ∈ l :: ls, '\r' ∉ m.body)
include h

theorem isRegular_ofItem : (ofItem l ls).IsRegular := by
  have hkind : (ofItem l ls).kind = .item := kind_ofItem l ls
  refine .of_own ?_ ?_ ?_ (notMem_texts_ofItem (by decide) h)
  all_goals
    rw [hkind]
    exact fun hne => absurd hne (by decide)

theorem isRegular_first : (first l ls).IsRegular := by
  refine .of_own exists_depth_first cells_first items_first_list ?_
  refine notMem_texts_content (by decide) (fun m hm => h m ?_) rfl _
  exact List.cons_subset_cons l (List.take_subset _ _) hm

theorem isRegular_of_mem_items_first : ∀ u ∈ (first l ls).items, u.IsRegular := by
  intro u hu
  rw [items_first] at hu
  obtain ⟨x, hx, rfl⟩ := List.mem_map.mp hu
  refine isRegular_ofItem fun m hm => h m ?_
  have hmem := (Opening.flatMap_parts_prefix _ _ _).subset (List.mem_flatMap.mpr ⟨x, hx, hm⟩)
  exact List.cons_subset_cons l (List.take_subset _ _) hmem

end First

/-- The blocks of a document have the fields of their kinds, and so do the items of its lists. -/
theorem isRegular_of_mem_ofText {source : Text} {t : Token} (ht : t ∈ ofText source) :
    t.kind ≠ .item ∧ t.IsRegular ∧ ∀ u ∈ t.fields.items, u.kind = .item ∧ u.IsRegular := by
  have hkinds := kind_of_mem_items ht
  refine ⟨kind_ne_item ht, ?_⟩
  rw [fields_items]
  obtain ⟨l, ls, hsuffix, rfl⟩ := exists_suffix_first ht
  have hbody : ∀ m ∈ l :: ls, '\r' ∉ m.body := fun m hm =>
    ((Text.lines_areCut source).1 m (hsuffix.subset hm)).1
  exact ⟨isRegular_first hbody, fun u hu =>
    ⟨hkinds u hu, isRegular_of_mem_items_first hbody u hu⟩⟩

theorem isRegular_of_mem_ofText_numbered :
    let source := "٣. [x] a\r\n\r\n|b|\r\n|-|".toList
    ∃ t ∈ ofText source, t.fields.start = some 3 ∧
      t.kind ≠ .item ∧ t.IsRegular ∧ ∀ u ∈ t.fields.items, u.kind = .item ∧ u.IsRegular := by
  intro source
  have hstarts : (ofText source).map (fun t => t.fields.start) = [some 3, none, none] := by
    decide +kernel
  obtain ⟨t, rest, htokens, hstart, -⟩ := List.map_eq_cons_iff.mp hstarts
  have hmem : t ∈ ofText source := htokens ▸ List.mem_cons_self
  exact ⟨t, hmem, hstart, isRegular_of_mem_ofText hmem⟩

end Token

end Excerpt
