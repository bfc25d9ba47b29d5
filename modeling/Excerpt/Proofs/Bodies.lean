import Excerpt.Proofs.Blocks

/-!
Lines without their endings. Where a block starts, how far it reaches and what it says depends on the
bodies of its lines alone; endings stand in the raw texts and nowhere else.
-/

namespace Excerpt

namespace Line

/-- The line without its ending. -/
def bare (l : Line) : Line := { l with ending := .eof }

@[simp] theorem body_bare (l : Line) : l.bare.body = l.body := rfl

@[simp] theorem isBlank_bare (l : Line) : l.bare.isBlank = l.isBlank := rfl

@[simp] theorem stripped_bare (l : Line) : l.bare.stripped = l.stripped := rfl

@[simp] theorem opensBlock_bare (l : Line) : l.bare.opensBlock = l.opensBlock := rfl

@[simp] theorem opensItem_bare (l : Line) : l.bare.opensItem = l.opensItem := rfl

@[simp] theorem tableAt?_bare (l : Line) (ls : List Line) :
    tableAt? l.bare (ls.map bare) = tableAt? l ls := by
  cases ls <;> rfl

@[simp] theorem interrupts_bare (l : Line) (ls : List Line) :
    l.bare.interrupts (ls.map bare) = l.interrupts ls := by
  simp [interrupts]

theorem dropWhile_isBlank_bare (ls : List Line) :
    (ls.map bare).dropWhile isBlank = (ls.dropWhile isBlank).map bare := by
  rw [List.dropWhile_map]
  rfl

theorem map_bare_eq_iff {ls ms : List Line} :
    ls.map bare = ms.map bare ↔ ls.map body = ms.map body := by
  constructor
  · intro h
    simpa [Function.comp_def] using congrArg (List.map body) h
  · intro h
    have hbare : (bare : Line → Line) = (fun b => ⟨b, .eof⟩) ∘ body := rfl
    rw [hbare, ← List.map_map, h, List.map_map]

end Line

namespace Extent

open Line

theorem space_bare (ls : List Line) : space (ls.map bare) = space ls := by
  simp [space, List.takeWhile_map, Function.comp_def]

theorem fenced_bare (f : Fence) (ls : List Line) : fenced f (ls.map bare) = fenced f ls := by
  induction ls with
  | nil => rfl
  | cons l ls ih => simp [fenced, ih]

theorem indented_bare (ls : List Line) : indented (ls.map bare) = indented ls := by
  induction ls with
  | nil => rfl
  | cons l ls ih => simp [indented, ih]

theorem quote_bare (ls : List Line) : quote (ls.map bare) = quote ls := by
  induction ls with
  | nil => rfl
  | cons l ls ih => simp [quote, ih]

theorem rows_bare (ls : List Line) : rows (ls.map bare) = rows ls := by
  induction ls with
  | nil => rfl
  | cons l ls ih => simp [rows, ih]

theorem paragraph_bare (ls : List Line) : paragraph (ls.map bare) = paragraph ls := by
  induction ls with
  | nil => rfl
  | cons l ls ih => simp [paragraph, ih]

theorem resumes_bare (kind : Char) (indent : Nat) (ls : List Line) :
    resumes kind indent (ls.map bare) = resumes kind indent ls := by
  cases ls <;> rfl

theorem list_bare (kind : Char) (indent : Nat) (ls : List Line) :
    list kind indent (ls.map bare) = list kind indent ls := by
  induction ls generalizing indent with
  | nil => rfl
  | cons l ls ih => simp [list, ih, dropWhile_isBlank_bare, resumes_bare]

end Extent

theorem fst_zip_prefix {α β : Type} (xs : List α) (ys : List β) :
    (xs.zip ys).map Prod.fst <+: xs := by
  induction xs generalizing ys with
  | nil => simp
  | cons x xs ih =>
    cases ys with
    | nil => simp
    | cons y ys => simpa using ih ys

theorem splitItems_map (f : Line → Line) (zs : List (Line × Bool)) :
    splitItems (zs.map (Prod.map f id)) =
      ((splitItems zs).1.map f, (splitItems zs).2.map (Prod.map f (List.map f))) := by
  induction zs with
  | nil => rfl
  | cons z zs ih =>
    simp only [List.map_cons, splitItems, ih, Prod.map_fst, Prod.map_snd, id]
    split <;> rfl

theorem flatMap_splitItems (zs : List (Line × Bool)) :
    (splitItems zs).1 ++ (splitItems zs).2.flatMap (fun x => x.1 :: x.2) = zs.map Prod.fst := by
  induction zs with
  | nil => rfl
  | cons z zs ih =>
    simp only [List.map_cons, splitItems, ← ih]
    split <;> simp

/-- The same content with other items. -/
def Content.map {ι κ : Type} (f : ι → κ) : Content ι → Content κ
  | heading d t => heading d t
  | paragraph t => paragraph t
  | table header align rows => table header align rows
  | code info t => code info t
  | list start items => list start (items.map f)
  | item checked t => item checked t
  | quote t => quote t
  | rule => rule
  | space => space

namespace Token

/-- The block without its raw text and those of its items. -/
def bare (t : Token) : Token := mk [] (t.content.map fun u => mk [] u.content)

@[simp] theorem kind_bare (t : Token) : t.bare.kind = t.kind := by
  obtain ⟨_, c⟩ := t
  cases c <;> rfl

@[simp] theorem depth?_bare (t : Token) : t.bare.depth? = t.depth? := by
  obtain ⟨_, c⟩ := t
  cases c <;> rfl

@[simp] theorem comparable_bare (t : Token) : t.bare.comparable = t.comparable := by
  obtain ⟨_, c⟩ := t
  cases c <;> rfl

end Token

namespace Opening

open Line

theorem read_bare (l : Line) (ls : List Line) : read l.bare (ls.map bare) = read l ls := by
  simp [read]

theorem extent_bare (ls : List Line) (o : Opening) : o.extent (ls.map bare) = o.extent ls := by
  cases o with
  | space => exact Extent.space_bare ls
  | fenced f info => exact Extent.fenced_bare f ls
  | indented => exact Extent.indented_bare ls
  | heading | rule => rfl
  | quote => exact Extent.quote_bare ls
  | list m => exact congrArg List.length (Extent.list_bare _ _ ls)
  | table => simp [extent, ← List.map_tail, Extent.rows_bare]
  | paragraph => exact congrArg Prod.fst (Extent.paragraph_bare ls)

/-- The lines of the items that a block has: the first line of each, and its further lines. -/
def parts (l : Line) (ls : List Line) : Opening → List (Line × List Line)
  | list m =>
    let (own, others) := splitItems (ls.zip (Extent.list m.bullet.kind m.contentIndent ls))
    (l, own) :: others
  | _ => []

theorem parts_bare (l : Line) (ls : List Line) (o : Opening) :
    o.parts l.bare (ls.map bare) = (o.parts l ls).map (Prod.map bare (List.map bare)) := by
  cases o with
  | list m => simp [parts, Extent.list_bare, List.zip_map_left, splitItems_map]
  | _ => rfl

/-- The items of a list are its lines one after the other. -/
theorem flatMap_parts_prefix (l : Line) (ls : List Line) (o : Opening) :
    (o.parts l ls).flatMap (fun x => x.1 :: x.2) <+: l :: ls := by
  cases o with
  | list m =>
    simp only [parts, List.flatMap_cons, List.cons_append, flatMap_splitItems]
    exact List.cons_prefix_cons.mpr ⟨rfl, fst_zip_prefix _ _⟩
  | _ => exact List.nil_prefix

end Opening

namespace Token

open Line

theorem items_first (l : Line) (ls : List Line) :
    (first l ls).items =
      ((Opening.read l ls).parts l (ls.take (reach l ls))).map fun x => ofItem x.1 x.2 := by
  simp only [items, first, ofLines, content]
  cases h : Opening.read l ls with
  | list m => rfl
  | paragraph =>
    simp only [Opening.content]
    cases (Extent.paragraph (ls.take (reach l ls))).2 <;> rfl
  | _ => rfl

theorem content_ofItem_bare (l : Line) (ls : List Line) :
    (ofItem l.bare (ls.map Line.bare)).content = (ofItem l ls).content := by
  have htext (m : Marker) : m.itemText (ls.map Line.bare) = m.itemText ls := by
    simp only [Marker.itemText, List.map_map]
    rfl
  have hlines : (l.bare :: ls.map Line.bare).map Line.stripped = (l :: ls).map Line.stripped := by
    simp [Function.comp_def]
  simp only [ofItem, htext, hlines, body_bare]
  rfl

theorem bare_eq_of_content {t u : Token} (h : t.content = u.content) : t.bare = u.bare := by
  rw [bare, bare, h]

theorem bare_ofLines (l : Line) (ls : List Line) (o : Opening) :
    (ofLines l.bare (ls.map Line.bare) o).bare = (ofLines l ls o).bare := by
  cases o with
  | space | heading | rule => rfl
  | fenced | indented | quote | table =>
    simp [ofLines, bare, content, Opening.content, Content.map, List.takeWhile_map, Function.comp_def]
  | list m =>
    have hcontent (l : Line) (ls : List Line) : (ofLines l ls (.list m)).content =
        .list m.bullet.number? (((Opening.list m).parts l ls).map fun x => ofItem x.1 x.2) := rfl
    simp only [bare, hcontent, Opening.parts_bare, Content.map, List.map_map, Function.comp_def,
      Prod.map_fst, Prod.map_snd, content_ofItem_bare]
  | paragraph =>
    simp only [ofLines, bare, content, Opening.content, Extent.paragraph_bare, ← List.map_dropLast]
    cases (Extent.paragraph ls).2 <;> simp [Content.map, Function.comp_def]

theorem reach_bare (l : Line) (ls : List Line) : reach l.bare (ls.map Line.bare) = reach l ls := by
  rw [reach, reach, Opening.read_bare, Opening.extent_bare]

theorem bare_first (l : Line) (ls : List Line) :
    (first l.bare (ls.map Line.bare)).bare = (first l ls).bare := by
  rw [first, first, Opening.read_bare, reach_bare, ← List.map_take, bare_ofLines]

end Token

end Excerpt
