import Excerpt.Markdown.Block
import Excerpt.Proofs.Cells
import Excerpt.Proofs.Markers

/-!
What is read off a line is made of the characters of the line, in their order: the text of a heading,
what stands behind a mark, the info of a fence, the cells of a row.
-/

namespace Excerpt

namespace Text

theorem notMem_of_sublist {c : Char} {s t : Text} (hst : s.Sublist t) (h : c ∉ t) : c ∉ s :=
  fun hs => h (hst.subset hs)

theorem dropEndWhile_sublist (p : Char → Bool) (t : Text) : (dropEndWhile p t).Sublist t := by
  have h : (t.reverse.dropWhile p).reverse.Sublist t.reverse.reverse :=
    (List.dropWhile_sublist p).reverse
  rwa [List.reverse_reverse] at h

theorem strip_sublist (t : Text) : (strip t).Sublist t :=
  (dropEndWhile_sublist _ _).trans (List.dropWhile_sublist _)

theorem firstWord_sublist (t : Text) : (firstWord t).Sublist t :=
  (List.takeWhile_sublist _).trans (List.dropWhile_sublist _)

theorem dropColumnsFrom_sublist (limit n : Nat) (t : Text) :
    (dropColumnsFrom limit n t).Sublist t := by
  fun_induction dropColumnsFrom limit n t with
  | case1 n r _ ih => exact ih.cons ' '
  | case3 n r _ ih => exact ih.cons '\t'
  | case2 | case4 | case5 => exact List.Sublist.refl _

theorem notMem_unlines {c : Char} (hc : c ≠ '\n') {ts : List Text} (h : ∀ t ∈ ts, c ∉ t) :
    c ∉ unlines ts :=
  notMem_joinWith (by simpa using hc) h

end Text

namespace Row

theorem sublist_of_mem_splitFrom {odd : Bool} {t piece : Text} (h : piece ∈ splitFrom odd t) :
    piece.Sublist t := by
  induction t generalizing odd piece with
  | nil =>
    obtain rfl : piece = [] := by simpa [splitFrom] using h
    exact List.Sublist.refl _
  | cons c r ih =>
    by_cases hc : (c == '|' && !odd) = true
    · rw [splitFrom_cons, if_pos hc] at h
      rcases List.mem_cons.mp h with rfl | h
      · exact List.nil_sublist _
      · exact (ih h).cons c
    · obtain ⟨cell, cells, hr, hsplit⟩ := splitFrom_cons_of_ne (by simpa using hc) r
      rw [hsplit] at h
      rcases List.mem_cons.mp h with rfl | h
      · have hcell : cell ∈ splitFrom (oddAfter odd c) r := by rw [hr]; exact List.mem_cons_self
        exact (ih hcell).cons_cons c
      · have hpiece : piece ∈ splitFrom (oddAfter odd c) r := by rw [hr]; exact List.mem_cons_of_mem _ h
        exact (ih hpiece).cons c

theorem dropOuterPipes_sublist (t : Text) : (dropOuterPipes t).Sublist t := by
  have hlast (u : Text) : (if u.getLast? == some '|' && !escapesNext u.dropLast then u.dropLast
      else u).Sublist u := by
    split
    · exact List.dropLast_sublist u
    · exact List.Sublist.refl u
  unfold dropOuterPipes
  split
  · exact (hlast _).cons '|'
  · exact hlast _

theorem unescape_sublist (t : Text) : (unescape t).Sublist t := by
  fun_induction unescape t with
  | case1 r ih => exact (ih.cons_cons '|').cons '\\'
  | case2 c r _ ih => exact ih.cons_cons c
  | case3 => exact List.Sublist.refl _

theorem sublist_of_mem_cells {line cell : Text} (h : cell ∈ cells line) : cell.Sublist line := by
  obtain ⟨piece, hpiece, rfl⟩ := List.mem_map.mp h
  calc (unescape (Text.strip piece)).Sublist (Text.strip piece) := unescape_sublist _
    List.Sublist _ piece := Text.strip_sublist _
    List.Sublist _ (dropOuterPipes (Text.strip line)) := sublist_of_mem_splitFrom hpiece
    List.Sublist _ (Text.strip line) := dropOuterPipes_sublist _
    List.Sublist _ line := Text.strip_sublist _

end Row

theorem unindented?_sublist {line t : Text} (h : unindented? line = some t) : t.Sublist line := by
  unfold unindented? at h
  split at h
  · obtain rfl : line.dropWhile (· == ' ') = t := by simpa using h
    exact List.dropWhile_sublist _
  · contradiction

theorem quoted?_sublist {line t : Text} (h : quoted? line = some t) : t.Sublist line := by
  unfold quoted? at h
  split at h
  · rename_i r hlead
    obtain rfl : r = t := by simpa using h
    exact (((List.Sublist.refl r).cons ' ').cons '>').trans (unindented?_sublist hlead)
  · rename_i r _ hlead
    obtain rfl : r = t := by simpa using h
    exact ((List.Sublist.refl r).cons '>').trans (unindented?_sublist hlead)
  · contradiction

namespace Heading

theorem dropClosing_sublist (t : Text) : (dropClosing t).Sublist t := by
  unfold dropClosing
  split
  · exact List.nil_sublist _
  · split
    · exact (Text.dropEndWhile_sublist _ _).trans (Text.dropEndWhile_sublist _ _)
    · exact List.Sublist.refl _

theorem of_hashed? {line t : Text} {d : Nat} (h : hashed? line = some (d, t)) :
    (1 ≤ d ∧ d ≤ 6) ∧ t.Sublist line := by
  unfold hashed? at h
  split at h
  · contradiction
  · rename_i u hu
    dsimp only at h
    split at h
    · rename_i hdepth
      obtain ⟨rfl, rfl⟩ := Prod.mk.inj (Option.some.inj h)
      simp only [Bool.and_eq_true, decide_eq_true_eq] at hdepth
      refine ⟨hdepth.1, ?_⟩
      calc (Text.strip _).Sublist _ := Text.strip_sublist _
        List.Sublist _ _ := dropClosing_sublist _
        List.Sublist _ _ := Text.dropEndWhile_sublist _ _
        List.Sublist _ _ := List.dropWhile_sublist _
        List.Sublist _ u := List.dropWhile_sublist _
        List.Sublist _ line := unindented?_sublist hu
    · contradiction

end Heading

theorem takeWhile_beq_eq_replicate (c : Char) (t : Text) :
    t.takeWhile (· == c) = List.replicate (t.takeWhile (· == c)).length c := by
  refine List.eq_replicate_iff.mpr ⟨rfl, fun d hd => ?_⟩
  simpa using List.mem_takeWhile_imp hd

namespace Fence

theorem onlyLine?_sublist {t body : Text} (h : onlyLine? t = some body) : body.Sublist t := by
  obtain ⟨-, hbody⟩ := Option.ite_none_left_eq_some.mp h
  rw [← Option.some.inj hbody]
  split
  · exact List.dropLast_sublist t
  · exact List.Sublist.refl t

/-- All that a line says that opens a fence. -/
theorem opening?_eq_some {line info : Text} {f : Fence} (h : opening? line = some (f, info)) :
    (isMark f.mark = true ∧ 3 ≤ f.size ∧ f.indent ≤ 3) ∧
      ∃ lead rest, line = lead ++ (List.replicate f.size f.mark ++ rest) ∧
        (lead.length ≤ 3 ∧ ∀ c ∈ lead, Text.isBlank c = true) ∧ Text.columns lead = f.indent ∧
        rest.head? ≠ some f.mark ∧ onlyLine? rest = some info ∧ (f.mark = '`' → '`' ∉ info) := by
  unfold opening? at h
  dsimp only at h
  split at h
  · contradiction
  · rename_i c r hline
    split at h
    · rename_i hfence
      simp only [Bool.and_eq_true, decide_eq_true_eq] at hfence
      obtain ⟨⟨⟨hlead, hindent⟩, hmark⟩, hsize⟩ := hfence
      split at h
      · contradiction
      · rename_i body hbody
        split at h
        · contradiction
        · rename_i hticks
          obtain ⟨rfl, rfl⟩ := Prod.mk.inj (Option.some.inj h)
          refine ⟨⟨hmark, hsize, hindent⟩, line.takeWhile Text.isBlank, (c :: r).dropWhile (· == c),
            ?_, ⟨hlead, fun d hd => List.mem_takeWhile_imp hd⟩, rfl, fun hd => ?_, hbody, ?_⟩
          · rw [← takeWhile_beq_eq_replicate, List.takeWhile_append_dropWhile, ← hline,
              List.takeWhile_append_dropWhile]
          · have hnot := List.head?_dropWhile_not (· == c) (c :: r)
            rw [hd] at hnot
            simp at hnot
          · rintro rfl hmem
            simp [hmem] at hticks
    · contradiction

theorem info_sublist {line info : Text} {f : Fence} (h : opening? line = some (f, info)) :
    info.Sublist line := by
  obtain ⟨-, lead, rest, hline, -, -, -, hinfo, -⟩ := opening?_eq_some h
  calc info.Sublist rest := onlyLine?_sublist hinfo
    List.Sublist _ (List.replicate f.size f.mark ++ rest) := List.sublist_append_right _ _
    List.Sublist _ line := hline ▸ List.sublist_append_right _ _

end Fence

theorem Bullet.sublist_of_read? {t r : Text} {b : Bullet} {width : Nat}
    (h : Bullet.read? t = some (b, width, r)) : r.Sublist t := by
  obtain ⟨c, -, rfl, -⟩ | ⟨digits, d, rfl, -⟩ := read?_eq_some h
  · exact List.sublist_cons_self c r
  · exact (List.sublist_cons_self d r).trans (List.sublist_append_right _ _)

theorem Marker.content_sublist {line : Text} {m : Marker} (h : Marker.read? line = some m) :
    m.content.Sublist line := by
  obtain ⟨r, hbullet, -, -, -, -, hcontent⟩ := read?_eq_some h
  calc m.content.Sublist r := hcontent ▸ List.dropWhile_sublist _
    List.Sublist _ (line.dropWhile (· == ' ')) := Bullet.sublist_of_read? hbullet
    List.Sublist _ line := List.dropWhile_sublist _

theorem readCheckbox_sublist (t : Text) : (readCheckbox t).2.Sublist t := by
  unfold readCheckbox
  split
  · rename_i c g r
    split
    · calc (r.dropWhile Text.isGap).Sublist r := List.dropWhile_sublist _
        List.Sublist _ ('[' :: c :: ']' :: g :: r) :=
          (List.suffix_append ['[', c, ']', g] r).sublist
    · exact List.Sublist.refl _
  · exact List.Sublist.refl _

end Excerpt
