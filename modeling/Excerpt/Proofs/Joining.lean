import Excerpt.Text.Blank
import Mathlib.Data.List.Basic
import Mathlib.Data.List.TakeWhile

/-!
Texts in parts: blanks around a text, texts joined by a separator and cut at it, and parts of a text.
-/

namespace Excerpt

namespace Text

theorem stripEnd_append {post : Text} (hpost : ∀ c ∈ post, isBlank c = true) (t : Text) :
    stripEnd (t ++ post) = stripEnd t := by
  have hreverse : ∀ c ∈ post.reverse, isBlank c = true := fun c hc => hpost c (by simpa using hc)
  rw [stripEnd, stripEnd, dropEndWhile, dropEndWhile, List.reverse_append,
    List.dropWhile_append_of_pos hreverse]

/-- Blanks around a text do not count for what it is without them. -/
theorem strip_pad {pre post : Text} (hpre : ∀ c ∈ pre, isBlank c = true)
    (hpost : ∀ c ∈ post, isBlank c = true) (t : Text) : strip (pre ++ t ++ post) = strip t := by
  rw [strip, strip, List.append_assoc, List.dropWhile_append_of_pos hpre, List.dropWhile_append]
  split
  · rename_i hnil
    rw [List.isEmpty_iff.mp hnil, List.dropWhile_eq_nil_iff.mpr hpost]
  · exact stripEnd_append hpost _

theorem ne_of_class {p : Char → Bool} {c d : Char} (h : p c = true) (hd : p d = false) : c ≠ d := by
  rintro rfl
  rw [hd] at h
  contradiction

theorem forall_bne_of_notMem {c : Char} {t : Text} (h : c ∉ t) : ∀ d ∈ t, (d != c) = true := by
  intro d hd
  simp only [bne_iff_ne, ne_eq]
  rintro rfl
  exact h hd

theorem dropWhile_eq_self {p : Char → Bool} {t : Text} (h : ∀ c ∈ t.head?, p c = false) :
    t.dropWhile p = t := by
  cases t with
  | nil => rfl
  | cons c r => exact List.dropWhile_cons_of_neg (by simp [h c rfl])

section Stop

variable {p : Char → Bool} {t rest : Text} (ht : ∀ c ∈ t, p c = true)
  (hrest : ∀ c ∈ rest.head?, p c = false)
include ht hrest

theorem dropWhile_append_stop : (t ++ rest).dropWhile p = rest := by
  rw [List.dropWhile_append_of_pos ht, dropWhile_eq_self hrest]

theorem takeWhile_append_stop : (t ++ rest).takeWhile p = t := by
  have hjoin := List.takeWhile_append_dropWhile (p := p) (l := t ++ rest)
  rw [dropWhile_append_stop ht hrest] at hjoin
  exact List.append_cancel_right hjoin

end Stop

theorem dropEndWhile_eq_self {p : Char → Bool} {t : Text} (h : ∀ c ∈ t.getLast?, p c = false) :
    dropEndWhile p t = t := by
  rw [dropEndWhile, dropWhile_eq_self (by simpa using h), List.reverse_reverse]

theorem dropEndWhile_concat_of_pos {p : Char → Bool} {c : Char} (h : p c = true) (t : Text) :
    dropEndWhile p (t ++ [c]) = dropEndWhile p t := by
  simp [dropEndWhile, h]

/-- A text is its own strip if and only if no blank stands at its ends. -/
theorem strip_eq_self_iff {t : Text} :
    strip t = t ↔
      (∀ c ∈ t.head?, isBlank c = false) ∧ ∀ c ∈ t.getLast?, isBlank c = false := by
  constructor
  · intro h
    have hlast : ∀ c ∈ (strip t).getLast?, isBlank c = false := by
      intro c hc
      rw [strip, stripEnd, dropEndWhile, List.getLast?_reverse] at hc
      have hnot := List.head?_dropWhile_not isBlank (t.dropWhile isBlank).reverse
      rw [Option.mem_def.mp hc] at hnot
      simpa using hnot
    refine ⟨fun c hc => ?_, h ▸ hlast⟩
    obtain ⟨r, rfl⟩ := List.head?_eq_some_iff.mp hc
    by_contra hb
    have hshort : (strip (c :: r)).length ≤ r.length := by
      rw [strip, stripEnd, dropEndWhile, List.length_reverse,
        List.dropWhile_cons_of_pos (by simpa using hb)]
      calc ((r.dropWhile isBlank).reverse.dropWhile isBlank).length
          ≤ (r.dropWhile isBlank).reverse.length := (List.dropWhile_suffix _).length_le
        _ ≤ r.length := by simpa using (List.dropWhile_suffix (l := r) isBlank).length_le
    rw [h, List.length_cons] at hshort
    omega
  · rintro ⟨hhead, hlast⟩
    rw [strip, dropWhile_eq_self hhead, stripEnd, dropEndWhile_eq_self hlast]

/-- A text without line breaks, and without blanks around it. -/
structure IsLine (t : Text) : Prop where
  strip_eq : strip t = t
  cr_notMem : '\r' ∉ t
  lf_notMem : '\n' ∉ t

instance : DecidablePred IsLine := fun t =>
  decidable_of_iff (strip t = t ∧ '\r' ∉ t ∧ '\n' ∉ t)
    ⟨fun h => ⟨h.1, h.2.1, h.2.2⟩, fun h => ⟨h.strip_eq, h.cr_notMem, h.lf_notMem⟩⟩

@[simp] theorem joinWith_singleton (sep t : Text) : joinWith sep [t] = t := by
  simp [joinWith]

@[simp] theorem joinWith_cons_cons (sep t u : Text) (ts : List Text) :
    joinWith sep (t :: u :: ts) = t ++ sep ++ joinWith sep (u :: ts) := by
  simp [joinWith]

theorem notMem_joinWith {c : Char} {sep : Text} (hsep : c ∉ sep) {ts : List Text}
    (h : ∀ t ∈ ts, c ∉ t) : c ∉ joinWith sep ts := by
  induction ts with
  | nil => simp [joinWith]
  | cons t ts ih =>
    have ht := h t (by simp)
    cases ts with
    | nil => rwa [joinWith_singleton]
    | cons u us => simp [ht, hsep, ih fun v hv => h v (List.mem_cons_of_mem t hv)]

section Pieces

variable (sep : Char)

theorem pieces_ne_nil (t : Text) : pieces sep t ≠ [] := by
  cases t with
  | nil => simp [pieces]
  | cons c r =>
    rw [pieces]
    split
    · simp
    · split <;> simp

theorem pieces_cons_of_ne {c : Char} (h : c ≠ sep) (r : Text) :
    ∃ p ps, pieces sep r = p :: ps ∧ pieces sep (c :: r) = (c :: p) :: ps := by
  obtain ⟨p, ps, hr⟩ := List.exists_cons_of_ne_nil (pieces_ne_nil sep r)
  exact ⟨p, ps, hr, by simp [pieces, h, hr]⟩

theorem pieces_cons_self (r : Text) : pieces sep (sep :: r) = [] :: pieces sep r := by
  simp [pieces]

theorem joinWith_pieces (t : Text) : joinWith [sep] (pieces sep t) = t := by
  induction t with
  | nil => rfl
  | cons c r ih =>
    by_cases hc : c = sep
    · subst hc
      obtain ⟨p, ps, hr⟩ := List.exists_cons_of_ne_nil (pieces_ne_nil c r)
      rw [hr] at ih
      simp [pieces_cons_self, hr, ih]
    · obtain ⟨p, ps, hr, hcons⟩ := pieces_cons_of_ne sep hc r
      rw [hr] at ih
      rw [hcons, ← ih]
      cases ps <;> simp

theorem flatMap_pieces (t : Text) : (pieces sep t).flatMap (· ++ [sep]) = t ++ [sep] := by
  induction t with
  | nil => rfl
  | cons c r ih =>
    by_cases hc : c = sep
    · simp [hc, pieces_cons_self, ih]
    · obtain ⟨p, ps, hr, hcons⟩ := pieces_cons_of_ne sep hc r
      rw [hr] at ih
      rw [hcons, List.cons_append, ← ih]
      simp

theorem sep_notMem_of_mem_pieces {t p : Text} (h : p ∈ pieces sep t) : sep ∉ p := by
  induction t generalizing p with
  | nil =>
    obtain rfl : p = [] := by simpa [pieces] using h
    simp
  | cons c r ih =>
    by_cases hc : c = sep
    · subst hc
      rw [pieces_cons_self] at h
      rcases List.mem_cons.mp h with rfl | h
      · simp
      · exact ih h
    · obtain ⟨q, qs, hr, hcons⟩ := pieces_cons_of_ne sep hc r
      rw [hcons] at h
      rw [hr] at ih
      rcases List.mem_cons.mp h with rfl | h
      · simp [Ne.symm hc, ih (p := q) (by simp)]
      · exact ih (List.mem_cons_of_mem q h)

theorem infix_of_mem_pieces {t p : Text} (h : p ∈ pieces sep t) : p <:+: t := by
  have hpiece : p ++ [sep] <:+: t ++ [sep] := by
    rw [← flatMap_pieces sep t]
    exact List.infix_of_mem_flatten (List.mem_map_of_mem h)
  obtain ⟨u, v, huv⟩ := hpiece
  rcases List.eq_nil_or_concat v with rfl | ⟨v, c, rfl⟩
  · rw [List.append_nil, ← List.append_assoc] at huv
    exact ⟨u, [], by rw [List.append_nil, List.append_cancel_right huv]⟩
  · rw [List.concat_eq_append, ← List.append_assoc] at huv
    exact ⟨u, [sep] ++ v, by rw [← (List.append_inj' huv rfl).1]; simp⟩

end Pieces

theorem hasPart_iff {part t : Text} : hasPart part t = true ↔ part <:+: t := by
  induction t with
  | nil => simp [hasPart]
  | cons c r ih => simp [hasPart, List.infix_cons_iff, ih]

end Text

end Excerpt
