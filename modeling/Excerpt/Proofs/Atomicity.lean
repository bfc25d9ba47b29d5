import Excerpt.Proofs.Writing
import Mathlib

/-!
Writing as one step. A document has its new text if no call up to the rename fails, and else the disk
is as it was; in both cases no temporary file is left. Of the two calls behind the rename a failure is
reported, too, though the text is written then.
-/

namespace Excerpt

namespace Stat

theorem agrees_iff {s t : Stat} :
    s.agrees t = true ↔
      s.inode = t.inode ∧ s.device = t.device ∧ s.size = t.size ∧ s.modified = t.modified := by
  simp [agrees, and_assoc]

end Stat

namespace Document

open Disk

variable {fails : Failures} {d : Disk} {current : Place} {r : Route} {expected : Stat}

theorem Lands.agrees_of_find (h : Lands fails d current r expected) {p : Place} {f : FileData}
    (hfind : find d current r = .ok (p, f)) : expected.agrees f.stat = true := by
  obtain ⟨q, g, hg, hagrees⟩ := h.found
  obtain ⟨rfl, rfl⟩ := Prod.mk.inj (Except.ok.inj (hfind.symm.trans hg))
  exact hagrees

theorem writtenMode_eq_iff (mode : Nat) :
    writtenMode fails mode = mode ↔ fails .setOwner ≠ none ∨ plainer mode = mode := by
  by_cases howner : fails .setOwner = none <;> simp [writtenMode, howner]

/-- A write that lands exchanges the text of the document and nothing else on the disk; any other one
fails and leaves the disk as it was. Of the writes that land those fail whose last look at the file or
whose setting of its times does. A document that is not as it was expected is never written. -/
theorem write_outcomes (fails : Failures) (d : Disk) (current : Place) (r : Route) (content : Text)
    (expected : Stat) :
    let result := write fails d current r content expected
    (¬ Lands fails d current r expected →
      (∃ x, result.2 = .error x) ∧ result.1.nodes = d.nodes) ∧
    (Lands fails d current r expected →
      (result.2 = .ok () ↔ fails .inspectAgain = none ∧ fails .setTimes = none) ∧
      ∃ p f g, find d current r = .ok (p, f) ∧ IsWith p g d result.1 ∧
        result.1.node? (freshPlace d p.dropLast) = none ∧ g.bytes = Utf8.encode content ∧
        (g.mode = expected.mode ↔ fails .setOwner ≠ none ∨ plainer expected.mode = expected.mode)) ∧
    ∀ p f, find d current r = .ok (p, f) →
      expected.inode ≠ f.stat.inode ∨ expected.device ≠ f.stat.device ∨
        expected.size ≠ f.stat.size ∨ expected.modified ≠ f.stat.modified →
      (∃ x, result.2 = .error x) ∧ result.1.nodes = d.nodes := by
  intro result
  have hcases := write_cases fails d current r content expected
  have hstays (h : ¬ Lands fails d current r expected) :
      (∃ x, result.2 = .error x) ∧ result.1.nodes = d.nodes := by
    rcases hcases with ⟨-, x, hx, hnodes⟩ | ⟨hcompletes, p, f, hfind, hagrees, -, -⟩
    · exact ⟨⟨x, hx⟩, hnodes⟩
    · exact absurd ⟨⟨p, f, hfind, hagrees⟩, hcompletes⟩ h
  refine ⟨hstays, fun h => ?_, fun p f hfind hdiffers => hstays fun h => ?_⟩
  · rcases hcases with ⟨hnot, -⟩ | ⟨-, p, f, hfind, -, hresult, hwith⟩
    · exact absurd h hnot
    · have hfresh : freshPlace d p.dropLast ≠ p := ((ne_of_find hfind).2 _).symm
      refine ⟨?_, p, f, _, hfind, hwith, ?_, rfl, writtenMode_eq_iff expected.mode⟩
      · rw [hresult]
        cases fails .inspectAgain <;> cases fails .setTimes <;> simp
      · rw [hwith.node?_of_ne _ hfresh, node?_freshPlace]
  · obtain ⟨hinode, hdevice, hsize, hmodified⟩ := Stat.agrees_iff.mp (h.agrees_of_find hfind)
    simp [hinode, hdevice, hsize, hmodified] at hdiffers

theorem write_outcomes_unowned :
    let f : FileData := ⟨[120], 0o4640, 2, 3⟩
    let d : Disk :=
      { nodes := [(["a".toList], .folder 0o755), (["a".toList, "doc.md".toList], .file f)]
        clock := 5 }
    let fails : Failures := fun c => if c = .setOwner then some .notPermitted else none
    let result := write fails d [] (.ofText "a/doc.md".toList) "zq".toList f.stat
    Lands fails d [] (.ofText "a/doc.md".toList) f.stat ∧ result.2 = .ok () ∧
      ∃ p g, IsWith p g d result.1 ∧ g.bytes = [122, 113] ∧ g.mode = 0o4640 := by
  intro f d fails result
  have hfind : find d [] (.ofText "a/doc.md".toList) =
      .ok (["a".toList, "doc.md".toList], f) := by
    dsimp only [d, f]
    cbv
  have hlands : Lands fails d [] (.ofText "a/doc.md".toList) f.stat := by
    refine ⟨⟨_, f, hfind, Stat.agrees_iff.mpr ⟨rfl, rfl, rfl, rfl⟩⟩, fun c _ _ => ?_⟩
    cases c <;> rfl
  obtain ⟨-, hwritten, -⟩ := write_outcomes fails d [] (.ofText "a/doc.md".toList) "zq".toList f.stat
  obtain ⟨hresult, p, -, g, -, hwith, -, hbytes, hmode⟩ := hwritten hlands
  exact ⟨hlands, hresult.mpr ⟨rfl, rfl⟩, p, g, hwith, hbytes,
    hmode.mpr (Or.inl (Option.some_ne_none _))⟩

/-- A write that succeeds takes away the bit that grants its owner's rights, and one that cannot set
the times of the file fails and has written the text. -/
theorem exists_write_not_atomic :
    let f : FileData := ⟨[120], 0o4644, 1, 1⟩
    let d : Disk := { nodes := [(["doc.md".toList], .file f)] }
    let r := Route.ofText "doc.md".toList
    let late : Failures := fun c => if c = .setTimes then some .notPermitted else none
    let result := write noFailures d [] r "zq".toList f.stat
    let failed := write late d [] r "zq".toList f.stat
    (result.2 = .ok () ∧
      result.1.node? ["doc.md".toList] = some (.file ⟨[122, 113], 0o644, 1, 1⟩)) ∧
    failed.2 = .error (.failed .notPermitted) ∧
      failed.1.node? ["doc.md".toList] = some (.file ⟨[122, 113], 0o644, 1, 1⟩) := by
  intro f d r late result failed
  have hresult : (result.2, result.1.node? ["doc.md".toList]) =
      (.ok (), some (.file ⟨[122, 113], 0o644, 1, 1⟩)) := by
    dsimp only [result, r, d, f]
    cbv
  have hfailed : (failed.2, failed.1.node? ["doc.md".toList]) =
      (.error (.failed .notPermitted), some (.file ⟨[122, 113], 0o644, 1, 1⟩)) := by
    dsimp only [failed, late, r, d, f]
    cbv
  exact ⟨Prod.mk.inj hresult, Prod.mk.inj hfailed⟩

end Document

end Excerpt
