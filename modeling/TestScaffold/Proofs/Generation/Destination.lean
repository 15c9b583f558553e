import TestScaffold.Generation.Invocation
import TestScaffold.Proofs.Path.Segments

/-!
Which requests have a destination, and what it is made of. A source has one exactly when it lies
in its workspace, so a generation that holds a destination cannot fail for its source afterwards.
The name of a test is no `..`, and neither is a part of the path of a source in its workspace.
-/

namespace TestScaffold

theorem Location.relative_eq_ok {l : Location} {relative : Path} (h : l.relative = .ok relative) :
    .parent ∉ relative.components ∧ ∃ name, relative.fileName? = some name := by
  unfold Location.relative at h
  split at h
  · cases h
  · split at h
    · cases h
    · split at h
      · cases h
      · rename_i path _ hup hname
        obtain rfl := Except.ok.inj h
        rw [Option.isNone_iff_eq_none] at hname
        exact ⟨hup, Option.ne_none_iff_exists'.mp hname⟩

theorem Location.under?_of_relative {l : Location} {relative : Path}
    (h : l.relative = .ok relative) : l.source.under? l.root = some relative := by
  unfold Location.relative at h
  split at h
  · cases h
  · rename_i path hunder
    split at h
    · cases h
    · split at h
      · cases h
      · obtain rfl := Except.ok.inj h
        exact hunder

theorem Location.isInputError_of_relative {l : Location} {e : GenerationError}
    (h : l.relative = .error e) : e.isInputError = true := by
  unfold relative at h
  split at h
  · obtain rfl := Except.error.inj h
    rfl
  · split at h
    · obtain rfl := Except.error.inj h
      rfl
    · split at h
      · obtain rfl := Except.error.inj h
        rfl
      · cases h

theorem Location.testPath_of_relative {l : Location} {relative : Path} (s : PathSettings)
    (h : l.relative = .ok relative) :
    l.testPath s =
      .ok ((l.testDirectory s relative).child ((relative.file?.map testName).getD [])) := by
  unfold testPath
  rw [h]
  rfl

theorem Location.testPath_of_relative_error {l : Location} {e : GenerationError}
    (s : PathSettings) (h : l.relative = .error e) : l.testPath s = .error e := by
  unfold testPath
  rw [h]
  rfl

theorem Location.relative_of_testPath {l : Location} {s : PathSettings} {d : Path}
    (h : l.testPath s = .ok d) : ∃ relative, l.relative = .ok relative := by
  cases hrelative : l.relative with
  | error e =>
    rw [testPath_of_relative_error s hrelative] at h
    cases h
  | ok relative => exact ⟨relative, rfl⟩

theorem not_slash_mem_testName {name : Text} (h : '/' ∉ name) :
    '/' ∉ testName (FileName.ofText name) := by
  have hparts : '/' ∉ (FileName.ofText name).text := by
    rw [FileName.text_ofText]
    exact h
  unfold FileName.text at hparts
  unfold testName FileName.text
  cases hext : (FileName.ofText name).extension with
  | none =>
    rw [hext] at hparts
    simp only [List.mem_append, not_or]
    exact ⟨hparts, by decide⟩
  | some extension =>
    rw [hext] at hparts
    simp only [List.mem_append, List.mem_cons, not_or] at hparts ⊢
    exact ⟨⟨hparts.1, by decide⟩, hparts.2⟩

theorem length_testName (f : FileName) : (testName f).length = f.text.length + 5 := by
  have htest : ".test".toList.length = 5 := rfl
  unfold testName FileName.text
  cases f.extension with
  | none => simp only [List.length_append, htest]
  | some extension =>
    simp only [List.length_append, List.length_cons, htest]
    omega

theorem Location.up_not_mem_withoutSourceRoot {l : Location} {relative : Path} (s : PathSettings)
    (h : l.relative = .ok relative) : ['.', '.'] ∉ (s.withoutSourceRoot relative).segments := by
  have hinner := (relative_eq_ok h).1
  rw [Path.parent_mem_components_iff] at hinner
  unfold PathSettings.withoutSourceRoot
  cases s.sourceRoot with
  | none => exact hinner
  | some root =>
    cases hunder : relative.under? ⟨root⟩ with
    | none => simpa [hunder] using hinner
    | some part =>
      intro hpart
      simp only [hunder, Option.getD_some] at hpart
      exact hinner (Path.up_mem_of_under? hunder hpart)

/-- A destination has a `..` only if the root of the workspace or the directory of the tests is
written with one. -/
theorem Location.up_mem_of_testPath {l : Location} {s : PathSettings} {d : Path}
    (h : l.testPath s = .ok d) (hup : ['.', '.'] ∈ d.segments) :
    ['.', '.'] ∈ l.root.segments ∨ ['.', '.'] ∈ (Path.mk s.testsDir).segments := by
  obtain ⟨relative, hrelative⟩ := relative_of_testPath h
  obtain ⟨-, name, hname⟩ := relative_eq_ok hrelative
  rw [testPath_of_relative s hrelative] at h
  obtain rfl := Except.ok.inj h
  have hsource := up_not_mem_withoutSourceRoot s hrelative
  rcases Path.mem_segments_join hup with hdirectory | htest
  · have htop : ['.', '.'] ∈ (l.root.join ⟨s.testsDir⟩).segments := by
      unfold testDirectory at hdirectory
      cases hparent : (s.withoutSourceRoot relative).parent? with
      | none => simpa [hparent] using hdirectory
      | some directory =>
        simp only [hparent] at hdirectory
        split at hdirectory
        · exact hdirectory
        · rcases Path.mem_segments_join hdirectory with htop | hbelow
          · exact htop
          · exact absurd (Path.up_mem_of_parent? hparent hbelow) hsource
    exact Path.mem_segments_join htop
  · -- The name of the test is a single segment, and too long for a `..`.
    exfalso
    have hslash : '/' ∉ testName (FileName.ofText name) :=
      not_slash_mem_testName (Path.not_slash_mem_of_mem_segments
        (Path.mem_segments_of_fileName? hname))
    unfold Path.segments at htest
    simp only [Path.file?, hname, Option.map_some, Option.getD_some] at htest
    rw [Text.fields_of_not_mem hslash, List.mem_singleton] at htest
    have hlength := length_testName (FileName.ofText name)
    rw [← htest, List.length_cons, List.length_singleton] at hlength
    omega

namespace Request

theorem testPath_of_destination {s : Settings} {r : Request} {d : Path}
    (h : r.destination s = .ok d) : r.location.testPath s.paths = .ok d := by
  unfold destination at h
  split at h
  · cases h
  · exact h

theorem relative_of_destination {s : Settings} {r : Request} {d : Path}
    (h : r.destination s = .ok d) : ∃ relative, r.location.relative = .ok relative :=
  Location.relative_of_testPath (testPath_of_destination h)

theorem isInputError_of_destination {s : Settings} {r : Request} {e : GenerationError}
    (h : r.destination s = .error e) : e.isInputError = true := by
  unfold destination at h
  split at h
  · obtain rfl := Except.error.inj h
    rfl
  · cases hrelative : r.location.relative with
    | error e' =>
      rw [Location.testPath_of_relative_error s.paths hrelative] at h
      obtain rfl := Except.error.inj h
      exact Location.isInputError_of_relative hrelative
    | ok relative =>
      rw [Location.testPath_of_relative s.paths hrelative] at h
      cases h

end Request

end TestScaffold
