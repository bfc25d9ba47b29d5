import Excerpt.Proofs.Casing
import Excerpt.Settings.Search

/-!
Checked settings. Settings pass the check if and only if each of them is, in normal form, of its kind
and inside its bounds; what a search for settings gives has passed it, and is in normal form.
-/

namespace Excerpt

theorem Format.named?_eq_some {v : Value} {f : Format} :
    named? v = some f ↔ v = .text f.name.toList := by
  constructor
  · intro h
    cases v with
    | text t =>
      have hname := List.find?_some h
      rw [← beq_iff_eq.mp hname]
    | _ => cases h
  · rintro rfl
    cases f <;> rfl

theorem Level.named?_eq_some {v : Value} {l : Level} :
    named? v = some l ↔ v = .text l.name.toList := by
  constructor
  · intro h
    cases v with
    | text t =>
      have hname := List.find?_some h
      rw [← beq_iff_eq.mp hname]
    | _ => cases h
  · rintro rfl
    cases l <;> rfl

namespace Settings

variable {s : Settings} {d : Disk} {current : Place} {r : Route} {changes : Overrides}

theorem formatValue_formatValue (v : Value) : formatValue (formatValue v) = formatValue v := by
  cases v with
  | text t =>
    by_cases h : t = "raw".toList
    · rw [h]
      rfl
    · rw [formatValue, if_neg (by simpa using h), formatValue, if_neg (by simpa using h)]
  | _ => rfl

theorem levelValue_levelValue (v : Value) : levelValue (levelValue v) = levelValue v := by
  cases v with
  | text t => simp only [levelValue, Text.upper_upper]
  | _ => rfl

theorem normalize_normalize (s : Settings) : s.normalize.normalize = s.normalize := by
  simp only [normalize, formatValue_formatValue, levelValue_levelValue]

/-- What settings in normal form have to be. -/
structure IsChecked (s : Settings) : Prop where
  outputFormat : ∃ f : Format, s.outputFormat = .text f.name.toList
  jsonIndent : ∃ n, 0 ≤ n ∧ s.jsonIndent = .integer n
  separator : ∃ t, s.separator = .text t
  maxFileSize : ∃ n, 0 < n ∧ s.maxFileSize = .integer n
  maxSelectorLength : ∃ n, 0 < n ∧ s.maxSelectorLength = .integer n
  logLevel : ∃ l : Level, s.logLevel = .text l.name.toList

theorem exists_of_bind_eq_ok {ε α β : Type} {x : Except ε α} {f : α → Except ε β} {b : β}
    (h : x >>= f = .ok b) : ∃ a, x = .ok a ∧ f a = .ok b := by
  cases x with
  | error e => cases h
  | ok a => exact ⟨a, rfl, h⟩

theorem integer_eq_ok {f : Field} {n : Int} : s.integer f = .ok n ↔ s.get f = .integer n := by
  unfold integer
  split <;> simp_all

theorem orFault_eq_ok {α : Type} {o : Option α} {fault : Fault} {a : α} :
    orFault o fault = .ok a ↔ o = some a := by
  cases o <;> simp [orFault]

theorem positive_eq_ok {f : Field} {n : Int} {m : Nat} :
    positive f n = .ok m ↔ 0 < n ∧ n.toNat = m := by
  unfold positive
  split <;> simp_all

theorem separator?_eq_some {t : Text} : s.separator? = some t ↔ s.separator = .text t := by
  unfold separator?
  split <;> simp_all

theorem isChecked_of_options {o : Options} (h : s.options = .ok o) : s.IsChecked := by
  obtain ⟨indent, hindent, h⟩ := exists_of_bind_eq_ok h
  obtain ⟨size, hsize, h⟩ := exists_of_bind_eq_ok h
  obtain ⟨length, hlength, h⟩ := exists_of_bind_eq_ok h
  obtain ⟨format, hformat, h⟩ := exists_of_bind_eq_ok h
  obtain ⟨level, hlevel, h⟩ := exists_of_bind_eq_ok h
  obtain ⟨separator, hseparator, h⟩ := exists_of_bind_eq_ok h
  split at h
  · cases h
  rename_i hnonnegative
  obtain ⟨_, hpositive, h⟩ := exists_of_bind_eq_ok h
  obtain ⟨_, hpositive', -⟩ := exists_of_bind_eq_ok h
  exact {
    outputFormat := ⟨format, Format.named?_eq_some.mp (orFault_eq_ok.mp hformat)⟩
    jsonIndent := ⟨indent, Int.not_lt.mp hnonnegative, integer_eq_ok.mp hindent⟩
    separator := ⟨separator, separator?_eq_some.mp (orFault_eq_ok.mp hseparator)⟩
    maxFileSize := ⟨size, (positive_eq_ok.mp hpositive).1, integer_eq_ok.mp hsize⟩
    maxSelectorLength := ⟨length, (positive_eq_ok.mp hpositive').1, integer_eq_ok.mp hlength⟩
    logLevel := ⟨level, Level.named?_eq_some.mp (orFault_eq_ok.mp hlevel)⟩ }

theorem IsChecked.exists_options (h : s.IsChecked) : ∃ o, s.options = .ok o := by
  obtain ⟨⟨format, hformat⟩, ⟨indent, hnonnegative, hindent⟩, ⟨separator, hseparator⟩,
    ⟨size, hpositive, hsize⟩, ⟨length, hpositive', hlength⟩, ⟨level, hlevel⟩⟩ := h
  have hindent' : s.integer .jsonIndent = .ok indent := integer_eq_ok.mpr hindent
  have hsize' : s.integer .maxFileSize = .ok size := integer_eq_ok.mpr hsize
  have hlength' : s.integer .maxSelectorLength = .ok length := integer_eq_ok.mpr hlength
  refine ⟨⟨format, indent.toNat, separator, size.toNat, length.toNat, level⟩, ?_⟩
  simp [options, hindent', hsize', hlength', Format.named?_eq_some.mpr hformat,
    Level.named?_eq_some.mpr hlevel, separator?_eq_some.mpr hseparator, orFault, positive,
    Int.not_lt.mpr hnonnegative, hpositive, hpositive', bind, Except.bind, pure, Except.pure]

theorem exists_check_iff : (∃ o, s.check = .ok o) ↔ s.normalize.IsChecked :=
  ⟨fun ⟨_, h⟩ => isChecked_of_options h, IsChecked.exists_options⟩

theorem build_eq_ok_iff {o : Options} :
    build d current r changes = .ok (s, o) ↔
      ∃ l, load d current r = .ok l ∧ (l.overlay changes).normalize = s ∧ s.check = .ok o := by
  unfold build
  constructor
  · intro h
    obtain ⟨l, hload, h⟩ := exists_of_bind_eq_ok h
    dsimp only at h
    split at h
    · rename_i options hcheck
      cases h
      exact ⟨l, hload, rfl, hcheck⟩
    · cases h
  · rintro ⟨l, hload, rfl, hcheck⟩
    simp [hload, hcheck, bind, Except.bind, pure, Except.pure]

/-- Whatever files and overrides hold: settings that are built are checked ones in normal form, and
they pass the check again. Nothing else than the check refuses settings that were found. -/
theorem build_checked (d : Disk) (current : Place) (r : Route) (changes : Overrides) :
    (∀ s o, build d current r changes = .ok (s, o) →
      s.IsChecked ∧ s.normalize = s ∧ s.check = .ok o) ∧
    ∀ l, load d current r = .ok l → (l.overlay changes).normalize.IsChecked →
      ∃ o, build d current r changes = .ok ((l.overlay changes).normalize, o) := by
  constructor
  · intro s o h
    obtain ⟨l, -, rfl, hcheck⟩ := build_eq_ok_iff.mp h
    have hnormal := normalize_normalize (l.overlay changes)
    exact ⟨hnormal ▸ exists_check_iff.mp ⟨o, hcheck⟩, hnormal, hcheck⟩
  · intro l hload hchecked
    rw [← normalize_normalize] at hchecked
    obtain ⟨o, hcheck⟩ := exists_check_iff.mpr hchecked
    exact ⟨o, build_eq_ok_iff.mpr ⟨l, hload, rfl, hcheck⟩⟩

theorem build_checked_overridden :
    let d : Disk :=
      { nodes := [(["pyproject.toml".toList],
          .file ⟨Utf8.encode "[tool.md-query]\nlog_level='info'".toList, 0o644, 1, 1⟩)] }
    let changes : Overrides := [(.outputFormat, .text "raw".toList), (.jsonIndent, .integer 0)]
    ∃ s o, build d [] (.ofPlace []) changes = .ok (s, o) ∧
      s.logLevel = .text "INFO".toList ∧ s.outputFormat = .text "text".toList ∧
      s.IsChecked ∧ s.normalize = s ∧ s.check = .ok o := by
  intro d changes
  have hbuild : build d [] (.ofPlace []) changes =
      .ok (({} : Settings).set .jsonIndent (.integer 0) |>.set .logLevel (.text "INFO".toList),
        ⟨.text, 0, ['\n'], 10485760, 1000, .info⟩) := by
    dsimp only [d, changes]
    cbv
  have hchecked := (build_checked d [] (.ofPlace []) changes).1 _ _ hbuild
  exact ⟨_, _, hbuild, rfl, rfl, hchecked⟩

end Settings

end Excerpt
