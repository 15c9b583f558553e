import TestScaffold.Proofs.Disk.Succession
import TestScaffold.Proofs.Generation.Destination

/-!
Which sources share a test. The tests repeat the tree of the sources below one directory, with the
directory of the sources left out; so two sources have one test path when they have one name and
lie in one directory once that is left out, and not otherwise.
-/

namespace TestScaffold

theorem cutAtLastDot_eq_none_iff {name : Text} : cutAtLastDot name = none ↔ '.' ∉ name := by
  induction name with
  | nil => simp [cutAtLastDot]
  | cons c name ih =>
    simp only [cutAtLastDot, List.mem_cons, not_or, ← ih]
    cases hrest : cutAtLastDot name with
    | none =>
      by_cases hc : c = '.'
      · simp [hc]
      · simp [hc, Ne.symm hc]
    | some cut => simp

theorem cutAtLastDot_append {stem extension : Text} (h : '.' ∉ extension) :
    cutAtLastDot (stem ++ '.' :: extension) = some (stem, extension) := by
  induction stem with
  | nil =>
    rw [List.nil_append, cutAtLastDot, cutAtLastDot_eq_none_iff.mpr h]
    rfl
  | cons c stem ih =>
    rw [List.cons_append, cutAtLastDot, ih]

theorem not_dot_mem_of_cutAtLastDot {name stem extension : Text}
    (h : cutAtLastDot name = some (stem, extension)) : '.' ∉ extension := by
  induction name generalizing stem with
  | nil => cases h
  | cons c name ih =>
    unfold cutAtLastDot at h
    split at h
    · rename_i stem' extension' hrest
      obtain ⟨-, rfl⟩ := Prod.mk.inj (Option.some.inj h)
      exact ih hrest
    · rename_i hrest
      split at h
      · obtain ⟨-, rfl⟩ := Prod.mk.inj (Option.some.inj h)
        exact cutAtLastDot_eq_none_iff.mp hrest
      · cases h

/-- The name of a test is cut before its extension, or before `test` when it has none. -/
theorem cutAtLastDot_testName (name : Text) :
    (∃ stem extension, FileName.ofText name = ⟨stem, some extension⟩ ∧ stem ≠ [] ∧
      cutAtLastDot (testName (FileName.ofText name)) = some (stem ++ ".test".toList, extension)) ∨
    FileName.ofText name = ⟨name, none⟩ ∧
      cutAtLastDot (testName (FileName.ofText name)) = some (name, "test".toList) := by
  have hplain : ∀ t : Text, cutAtLastDot (testName ⟨t, none⟩) = some (t, "test".toList) := by
    intro t
    have htest : ".test".toList = '.' :: "test".toList := rfl
    have hdot : '.' ∉ "test".toList := by decide
    unfold testName FileName.text
    rw [htest]
    exact cutAtLastDot_append hdot
  cases hcut : cutAtLastDot name with
  | none =>
    have hname : FileName.ofText name = ⟨name, none⟩ := by
      unfold FileName.ofText
      rw [hcut]
    rw [hname]
    exact Or.inr ⟨rfl, hplain name⟩
  | some cut =>
    obtain ⟨stem, extension⟩ := cut
    cases stem with
    | nil =>
      have hname : FileName.ofText name = ⟨name, none⟩ := by
        unfold FileName.ofText
        rw [hcut]
      rw [hname]
      exact Or.inr ⟨rfl, hplain name⟩
    | cons c stem =>
      have hname : FileName.ofText name = ⟨c :: stem, some extension⟩ := by
        unfold FileName.ofText
        rw [hcut]
      rw [hname]
      refine Or.inl ⟨c :: stem, extension, rfl, List.cons_ne_nil c stem, ?_⟩
      exact cutAtLastDot_append (not_dot_mem_of_cutAtLastDot hcut)

/-- Two sources whose tests have one name have one name themselves. -/
theorem eq_of_testName_eq {a b : Text}
    (h : testName (FileName.ofText a) = testName (FileName.ofText b)) : a = b := by
  -- A name that ends in `.test` has an extension, unless that is all of it.
  have hmixed : ∀ {x y stem extension : Text}, FileName.ofText x = ⟨stem, some extension⟩ →
      stem ≠ [] → FileName.ofText y = ⟨y, none⟩ →
      some (stem ++ ".test".toList, extension) ≠ some (y, "test".toList) := by
    intro x y stem extension _ hstem hy heq
    have hy' : stem ++ ".test".toList = y := (Prod.mk.inj (Option.some.inj heq)).1
    have hdot : '.' ∉ "test".toList := by decide
    have hcut : cutAtLastDot y = some (stem, "test".toList) := by
      rw [← hy']
      exact cutAtLastDot_append hdot
    obtain ⟨c, stem, rfl⟩ := List.exists_cons_of_ne_nil hstem
    unfold FileName.ofText at hy
    rw [hcut] at hy
    cases hy
  have hcut := congrArg cutAtLastDot h
  rcases cutAtLastDot_testName a with ⟨s, e, ha, hs, hcuta⟩ | ⟨ha, hcuta⟩
  · rcases cutAtLastDot_testName b with ⟨s', e', hb, hs', hcutb⟩ | ⟨hb, hcutb⟩
    · rw [hcuta, hcutb] at hcut
      obtain ⟨hstems, rfl⟩ := Prod.mk.inj (Option.some.inj hcut)
      obtain rfl := List.append_cancel_right hstems
      rw [← FileName.text_ofText a, ← FileName.text_ofText b, ha, hb]
    · rw [hcuta, hcutb] at hcut
      exact absurd hcut (hmixed ha hs hb)
  · rcases cutAtLastDot_testName b with ⟨s', e', hb, hs', hcutb⟩ | ⟨hb, hcutb⟩
    · rw [hcuta, hcutb] at hcut
      exact absurd hcut.symm (hmixed hb hs' ha)
    · rw [hcuta, hcutb] at hcut
      exact (Prod.mk.inj (Option.some.inj hcut)).1

theorem isName_testName (f : FileName) : Disk.IsName (testName f) := by
  have hlength := length_testName f
  refine ⟨?_, ?_, ?_⟩
  · intro hempty
    rw [hempty, List.length_nil] at hlength
    omega
  · intro hdot
    rw [hdot, List.length_singleton] at hlength
    omega
  · intro hdots
    rw [hdots, List.length_cons, List.length_singleton] at hlength
    omega

theorem PathSettings.isPlain_withoutSourceRoot (s : PathSettings) {relative : Path}
    (h : relative.IsPlain) : (s.withoutSourceRoot relative).IsPlain := by
  unfold withoutSourceRoot
  cases s.sourceRoot with
  | none => exact h
  | some root =>
    cases hunder : relative.under? ⟨root⟩ with
    | none =>
      dsimp only
      rw [hunder]
      exact h
    | some rest =>
      dsimp only
      rw [hunder]
      exact Path.isPlain_under? hunder (Or.inr h)

/-- Where the test of a source belongs: the directory that it lies in below that of the tests,
and the name of the source. -/
def PathSettings.mirrored (s : PathSettings) (relative : Path) :
    List Path.Component × Option Text :=
  ((s.withoutSourceRoot relative).components.dropLast, relative.fileName?)

namespace Location

def mirrored (l : Location) (s : PathSettings) :
    Except GenerationError (List Path.Component × Option Text) :=
  l.relative.map s.mirrored

variable {l : Location} {s : PathSettings} {relative d : Path}

theorem isPlain_of_relative (hroot : l.root.isAbsolute = true) (h : l.relative = .ok relative) :
    relative.IsPlain := by
  apply Path.isPlain_under? (under?_of_relative h)
  rw [Path.components_of_absolute hroot]
  exact Or.inl (List.cons_ne_nil _ _)

theorem source_ne_nil (hroot : l.root.isAbsolute = true) (h : l.testPath s = .ok d) :
    l.source.text ≠ [] := by
  obtain ⟨relative, hrelative⟩ := relative_of_testPath h
  have hcomponents := Path.components_under? (under?_of_relative hrelative)
  rw [Path.components_of_absolute hroot] at hcomponents
  intro hempty
  have hnone : l.source.components = [] := by
    unfold Path.components Path.layout
    rw [hempty]
    rfl
  rw [hnone] at hcomponents
  cases hcomponents

theorem steps_testDirectory (l : Location) (h : (s.withoutSourceRoot relative).IsPlain) :
    (l.testDirectory s relative).steps =
      (l.root.join ⟨s.testsDir⟩).steps ++ (s.withoutSourceRoot relative).steps.dropLast := by
  unfold testDirectory
  dsimp only
  rcases h.parent?_eq with ⟨hnone, hsteps⟩ | ⟨directory, hsome, hplain, hsteps⟩
  · rw [hnone, hsteps, List.dropLast_nil, List.append_nil]
  · rw [hsome, ← hsteps]
    dsimp only
    split
    · rename_i hempty
      have hnil : directory.steps = [] := by
        unfold Path.steps Path.segments
        rw [hempty]
        rfl
      rw [hnil, List.append_nil]
    · exact Path.steps_join _ hplain.isAbsolute_eq

theorem isAbsolute_testDirectory (l : Location) (s : PathSettings) (relative : Path)
    (hroot : l.root.isAbsolute = true) : (l.testDirectory s relative).isAbsolute = true := by
  have htop := Path.isAbsolute_join hroot ⟨s.testsDir⟩
  unfold testDirectory
  dsimp only
  split
  · split
    · exact htop
    · exact Path.isAbsolute_join htop _
  · exact htop

/-- The destination of a source: the directory of the tests, the way to the source in the
workspace without the directory of the sources, and the name of the test. -/
theorem steps_testPath (hroot : l.root.isAbsolute = true) (hrelative : l.relative = .ok relative)
    {name : Text} (hname : relative.fileName? = some name) (h : l.testPath s = .ok d) :
    d.isAbsolute = true ∧
      d.steps = (l.root.join ⟨s.testsDir⟩).steps ++
        ((s.withoutSourceRoot relative).steps.dropLast ++ [testName (FileName.ofText name)]) := by
  have hplain := s.isPlain_withoutSourceRoot (isPlain_of_relative hroot hrelative)
  have hslash : '/' ∉ testName (FileName.ofText name) :=
    not_slash_mem_testName (Path.not_slash_mem_of_mem_segments
      (Path.mem_segments_of_fileName? hname))
  have hfile : Path.isAbsolute ⟨testName (FileName.ofText name)⟩ = false := by
    rw [← Bool.not_eq_true, Path.isAbsolute_iff]
    rintro ⟨t, ht⟩
    apply hslash
    rw [show testName (FileName.ofText name) = '/' :: t from ht]
    exact List.mem_cons_self
  have hsteps : Path.steps ⟨testName (FileName.ofText name)⟩ =
      [testName (FileName.ofText name)] := by
    have hsegments : Path.segments ⟨testName (FileName.ofText name)⟩ =
        [testName (FileName.ofText name)] := Text.fields_of_not_mem hslash
    have hname := isName_testName (FileName.ofText name)
    have hstep : Path.isNullSegment (testName (FileName.ofText name)) = false :=
      Path.isNullSegment_eq_false_iff.mpr ⟨hname.1, hname.2.1⟩
    rw [Path.steps_of_segments hsegments, List.filter_cons_of_pos (by simp [hstep]),
      List.filter_nil]
  rw [testPath_of_relative s hrelative, Path.file?, hname] at h
  obtain rfl := Except.ok.inj h
  refine ⟨Path.isAbsolute_join (isAbsolute_testDirectory l s relative hroot) _, ?_⟩
  simp only [Option.map_some, Option.getD_some]
  unfold Path.child
  rw [Path.steps_join _ hfile, steps_testDirectory l hplain, hsteps, List.append_assoc]

/-- Below the directory of the tests, destinations are made of names alone. -/
theorem names_of_testPath (hroot : l.root.isAbsolute = true) (h : l.testPath s = .ok d) :
    d.isAbsolute = true ∧ ∃ names, d.steps = (l.root.join ⟨s.testsDir⟩).steps ++ names ∧
      names ≠ [] ∧ ∀ x ∈ names, Disk.IsName x := by
  obtain ⟨relative, hrelative⟩ := relative_of_testPath h
  obtain ⟨-, name, hname⟩ := relative_eq_ok hrelative
  obtain ⟨habsolute, hsteps⟩ := steps_testPath hroot hrelative hname h
  refine ⟨habsolute, _, hsteps, by simp, ?_⟩
  intro x hx
  rcases List.mem_append.mp hx with habove | htest
  · exact Disk.isName_of_mem_filter (up_not_mem_withoutSourceRoot s hrelative) x
      (List.dropLast_subset _ habove)
  · rw [List.mem_singleton.mp htest]
    exact isName_testName _

/-- Two sources of one workspace share a destination exactly when their tests belong in one
place. -/
theorem components_testPath_eq_iff {root a b e : Path} (hroot : root.isAbsolute = true)
    (ha : Location.testPath ⟨root, a⟩ s = .ok d) (hb : Location.testPath ⟨root, b⟩ s = .ok e) :
    d.components = e.components ↔
      Location.mirrored ⟨root, a⟩ s = Location.mirrored ⟨root, b⟩ s := by
  obtain ⟨ra, hra⟩ := relative_of_testPath ha
  obtain ⟨rb, hrb⟩ := relative_of_testPath hb
  obtain ⟨-, na, hna⟩ := relative_eq_ok hra
  obtain ⟨-, nb, hnb⟩ := relative_eq_ok hrb
  obtain ⟨hd, hstepsd⟩ := steps_testPath (l := ⟨root, a⟩) hroot hra hna ha
  obtain ⟨he, hstepse⟩ := steps_testPath (l := ⟨root, b⟩) hroot hrb hnb hb
  have hplaina := s.isPlain_withoutSourceRoot (isPlain_of_relative (l := ⟨root, a⟩) hroot hra)
  have hplainb := s.isPlain_withoutSourceRoot (isPlain_of_relative (l := ⟨root, b⟩) hroot hrb)
  have hdirectories : (s.withoutSourceRoot ra).components.dropLast =
        (s.withoutSourceRoot rb).components.dropLast ↔
      (s.withoutSourceRoot ra).steps.dropLast = (s.withoutSourceRoot rb).steps.dropLast := by
    rw [hplaina.components_eq, hplainb.components_eq, ← List.map_dropLast, ← List.map_dropLast]
    exact (List.map_injective_iff.mpr Path.stepComponent_injective).eq_iff
  have hmirrored : Location.mirrored ⟨root, a⟩ s = Location.mirrored ⟨root, b⟩ s ↔
      (s.withoutSourceRoot ra).components.dropLast =
        (s.withoutSourceRoot rb).components.dropLast ∧ na = nb := by
    unfold mirrored PathSettings.mirrored
    rw [hra, hrb]
    simp [Except.map, hna, hnb]
  rw [Path.components_eq_iff hd he, hstepsd, hstepse, hmirrored, hdirectories,
    List.append_right_inj]
  constructor
  · intro h
    obtain ⟨hinit, hlast⟩ := List.append_inj' h rfl
    refine ⟨hinit, eq_of_testName_eq ?_⟩
    exact (List.cons.inj hlast).1
  · rintro ⟨hinit, rfl⟩
    rw [hinit]

end Location

/-- A request in a workspace with an absolute root goes to the test path of its source. -/
theorem Request.destination_eq_ok_iff {s : Settings} {r : Request} {d : Path}
    (hroot : r.location.root.isAbsolute = true) :
    r.destination s = .ok d ↔ r.location.testPath s.paths = .ok d := by
  refine ⟨testPath_of_destination, ?_⟩
  intro h
  unfold destination
  rw [if_neg (Location.source_ne_nil hroot h)]
  exact h

end TestScaffold
