import Excerpt.Proofs.Borders
import Excerpt.Proofs.Endings
import Excerpt.Proofs.Stages

/-!
Items of a list. They tile it: each starts with a marker of the kind that the list starts with, and
the last one ends with text. So each item is found right behind the one before it.
-/

namespace Excerpt

namespace Extent

variable {kind : Char}

theorem marker_of_mem_zip_list {indent : Nat} {ls : List Line} {l : Line}
    (h : (l, true) ∈ ls.zip (list kind indent ls)) :
    ∃ m, Marker.read? l.body = some m ∧ m.bullet.kind = kind := by
  induction ls generalizing indent with
  | nil => simp at h
  | cons x ls ih =>
    rw [list] at h
    by_cases hb : x.isBlank
    · by_cases hres : resumes kind indent (ls.dropWhile Line.isBlank)
      · exact ih (by simpa [hb, hres] using h)
      · simp [hb, hres] at h
    by_cases hi : indent ≤ Text.columns x.body
    · exact ih (by simpa [hb, hi] using h)
    by_cases hr : isRule x.body
    · simp [hb, hi, hr] at h
    cases hm : Marker.read? x.body with
    | some m =>
      by_cases hk : m.bullet.kind = kind
      · have h : l = x ∨ (l, true) ∈ ls.zip (list kind m.contentIndent ls) := by
          simpa [hb, hi, hr, hm, hk] using h
        rcases h with rfl | h
        · exact ⟨m, hm, hk⟩
        · exact ih h
      · simp [hb, hi, hr, hm, hk] at h
    | none =>
      by_cases hx : x.interrupts ls
      · simp [hb, hi, hr, hm, hx] at h
      · exact ih (by simpa [hb, hi, hr, hm, hx] using h)

/-- Blank lines belong to a list only before other lines of it. -/
theorem isBlank_getLast?_list {indent : Nat} {l : Line} {ls : List Line} (hl : l.isBlank = false) :
    ∀ m ∈ (l :: ls.take (list kind indent ls).length).getLast?, m.isBlank = false := by
  induction ls generalizing indent l with
  | nil => simpa using hl
  | cons x ls ih =>
    rw [list]
    by_cases hb : x.isBlank
    · by_cases hres : resumes kind indent (ls.dropWhile Line.isBlank)
      -- other lines of the list follow the blank ones, and the last of these is the last of all
      · have hpos : 0 < (list kind indent ls).length :=
          length_lt_list (List.forall_mem_nil _) hres
        have hle := list_le kind indent ls
        obtain ⟨y, ys, hys⟩ : ∃ y ys, ls.take (list kind indent ls).length = y :: ys := by
          refine List.exists_cons_of_ne_nil fun hnil => ?_
          have hlength := congrArg List.length hnil
          rw [List.length_take_of_le hle, List.length_nil] at hlength
          omega
        have hlast := @ih indent l hl
        rw [hys, List.getLast?_cons_cons] at hlast
        simpa [hb, hres, hys] using hlast
      · simpa [hb, hres] using hl
    have hx : x.isBlank = false := by simpa using hb
    by_cases hi : indent ≤ Text.columns x.body
    · simpa [hb, hi] using @ih indent x hx
    by_cases hr : isRule x.body
    · simpa [hb, hi, hr] using hl
    cases hm : Marker.read? x.body with
    | some m =>
      by_cases hk : m.bullet.kind = kind
      · simpa [hb, hi, hr, hm, hk] using @ih m.contentIndent x hx
      · simpa [hb, hi, hr, hm, hk] using hl
    | none =>
      by_cases hx' : x.interrupts ls
      · simpa [hb, hi, hr, hm, hx'] using hl
      · simpa [hb, hi, hr, hm, hx'] using @ih indent x hx

end Extent

namespace Opening

variable {m : Marker} {l : Line} {ls : List Line}

theorem flatMap_parts_list (h : (list m).extent ls = ls.length) :
    ((list m).parts l ls).flatMap (fun x => x.1 :: x.2) = l :: ls := by
  simp only [parts, List.flatMap_cons, List.cons_append, flatMap_splitItems]
  rw [List.map_fst_zip (Nat.le_of_eq h.symm)]

theorem parts_take (m : Marker) (l : Line) (ls : List Line) :
    (list m).parts l (ls.take ((list m).extent ls)) = (list m).parts l ls := by
  have hle := Extent.list_le m.bullet.kind m.contentIndent ls
  have hzip : (ls.take (Extent.list m.bullet.kind m.contentIndent ls).length).zip
      (Extent.list m.bullet.kind m.contentIndent ls) =
        ls.zip (Extent.list m.bullet.kind m.contentIndent ls) := by
    conv_rhs => rw [List.zip_eq_zip_take_min, Nat.min_eq_right hle, List.take_length]
  simp only [parts, extent, Extent.list_take, hzip]

theorem marker_of_mem_parts (hl : Marker.read? l.body = some m) {x : Line × List Line}
    (hx : x ∈ (list m).parts l ls) :
    ∃ k, Marker.read? x.1.body = some k ∧ k.bullet.kind = m.bullet.kind := by
  rcases List.mem_cons.mp hx with rfl | hx
  · exact ⟨m, hl, rfl⟩
  · exact Extent.marker_of_mem_zip_list (mem_of_mem_splitItems hx)

end Opening

theorem Line.AreCut.of_mem_flatMap {xs : List (Line × List Line)}
    (h : AreCut (xs.flatMap fun x => x.1 :: x.2)) {x : Line × List Line} (hx : x ∈ xs) :
    AreCut (x.1 :: x.2) := by
  obtain ⟨as, bs, rfl⟩ := List.append_of_mem hx
  rw [List.flatMap_append, List.flatMap_cons] at h
  exact h.right.left

namespace Token

theorem firstLine?_ofItem {l : Line} {own : List Line} (h : Line.AreCut (l :: own)) :
    (ofItem l own).firstLine? = some l := by
  have hlines : Text.lines (ofItem l own).raw = l :: own := Text.lines_joined h
  rw [firstLine?, hlines]
  rfl

section List

variable {l : Line} {ls : List Line} {k : Marker} (h : Opening.read l ls = .list k)
include h

theorem flatMap_parts_first :
    ((Opening.list k).parts l (ls.take (reach l ls))).flatMap (fun x => x.1 :: x.2) =
      l :: ls.take (reach l ls) := by
  refine Opening.flatMap_parts_list ?_
  have hreach := reach_take l ls
  rw [reach, read_take, h] at hreach
  rw [hreach, List.length_take_of_le (reach_le l ls)]

theorem flatMap_raw_items : (first l ls).items.flatMap raw = (first l ls).raw := by
  rw [items_first, h, List.flatMap_map, raw_first, Line.joined, ← flatMap_parts_first h,
    List.flatMap_assoc]
  rfl

variable (hcut : Line.AreCut (l :: ls))
include hcut

theorem bulletKind?_first : (first l ls).bulletKind? = some k.bullet.kind := by
  rw [bulletKind?, firstLine?_first hcut, Option.bind_some, Opening.read_list h, Option.map_some]

theorem areCut_of_mem_parts {x : Line × List Line}
    (hx : x ∈ (Opening.list k).parts l (ls.take (reach l ls))) : Line.AreCut (x.1 :: x.2) := by
  have hown := (areCut_reach hcut).1
  rw [← flatMap_parts_first h] at hown
  exact hown.of_mem_flatMap hx

theorem bulletKind?_of_mem_items {u : Token} (hu : u ∈ (first l ls).items) :
    u.bulletKind? = some k.bullet.kind := by
  rw [items_first, h] at hu
  obtain ⟨x, hx, rfl⟩ := List.mem_map.mp hu
  obtain ⟨m, hm, hkind⟩ := Opening.marker_of_mem_parts (Opening.read_list h) hx
  rw [bulletKind?, firstLine?_ofItem (areCut_of_mem_parts h hcut hx), Option.bind_some, hm,
    Option.map_some, hkind]

theorem isBlank_getLast?_first :
    ∃ m ∈ (Text.lines (first l ls).raw).getLast?, m.isBlank = false := by
  rw [lines_raw_first hcut]
  have hl : l.isBlank = false := by
    by_contra hb
    rw [Opening.read_of_isBlank (by simpa using hb)] at h
    cases h
  obtain ⟨m, hm⟩ := Option.isSome_iff_exists.mp
    (List.getLast?_isSome.mpr (List.cons_ne_nil l (ls.take (reach l ls))))
  refine ⟨m, hm, ?_⟩
  rw [reach, h] at hm
  exact Extent.isBlank_getLast?_list hl m hm

end List

theorem raws_lead_of_mem_items {t : Token} {source : Text} (ht : t ∈ ofText source) :
    t.items.flatMap raw <+: t.raw := by
  obtain ⟨l, ls, rfl⟩ := exists_eq_first ht
  by_cases hkind : (first l ls).kind = .list
  · obtain ⟨k, hk⟩ := exists_of_kind_list hkind
    rw [flatMap_raw_items hk]
  · rw [items_eq_nil hkind]
    exact List.nil_prefix

theorem placeItems_of_mem_index {source : Text} {p : Passage} (hp : p ∈ Passage.index source) :
    Passage.placeItems p.start p.token.raw p.token.items =
      Passage.consecutive p.start p.token.items :=
  Passage.placeItems_of_leads (raws_lead_of_mem_items (Passage.token_mem_of_mem_consecutive hp))

/-- A list is its items one after the other. Each starts with a marker of one and the same kind, and
the last line of the list is not blank. In the index the items stand where the texts of the items
before them end. -/
theorem items_tile (source : Text) :
    (∀ t ∈ ofText source, t.kind = .list →
      t.items.flatMap raw = t.raw ∧
      (∃ c, t.bulletKind? = some c ∧ ∀ u ∈ t.items, u.bulletKind? = some c) ∧
      ∃ l ∈ (Text.lines t.raw).getLast?, l.isBlank = false) ∧
    Passage.items (Passage.index source) =
      (Passage.index source).flatMap fun p => Passage.consecutive p.start p.token.items := by
  refine ⟨fun t ht hkind => ?_, List.flatMap_congr fun p hp => placeItems_of_mem_index hp⟩
  obtain ⟨l, ls, ⟨xs, hxs⟩, rfl⟩ := exists_suffix_first ht
  have hcut : Line.AreCut (l :: ls) := (hxs ▸ Text.lines_areCut source).right
  obtain ⟨k, hk⟩ := exists_of_kind_list hkind
  exact ⟨flatMap_raw_items hk,
    ⟨k.bullet.kind, bulletKind?_first hk hcut, fun _ hu => bulletKind?_of_mem_items hk hcut hu⟩,
    isBlank_getLast?_first hk hcut⟩

end Token

end Excerpt
