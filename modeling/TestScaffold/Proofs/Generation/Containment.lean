import TestScaffold.Proofs.Source.Aliasing

/-!
Where the tests of a workspace can lie. A source is refused exactly when it lies outside the root,
by its components, when its path leaves the root on the way, or when it is the root; every other
source has its test below the directory of the tests, and only names lead there from that directory.
-/

namespace TestScaffold

namespace Path

/-- A name is a path of one component. -/
theorem components_name {name : Text} (hname : Disk.IsName name) (hslash : '/' ∉ name) :
    components ⟨name⟩ = [.name name] := by
  have hnull : isNullSegment name = false :=
    isNullSegment_eq_false_iff.mpr ⟨hname.1, hname.2.1⟩
  have hlayout : layout ⟨name⟩ = ⟨.nothing, [name]⟩ :=
    layout_of_segments (Text.fields_of_not_mem hslash) hnull
  unfold components Layout.components
  rw [hlayout, List.filterMap_cons_some hname.ofSegment?_eq]
  rfl

theorem components_child (p : Path) {name : Text} (hname : Disk.IsName name) (hslash : '/' ∉ name) :
    (p.child name).components = p.components ++ [.name name] := by
  unfold child
  rw [components_join, components_name hname hslash]
  exact joined_names p.components [name]

end Path

/-- The name of a test: `.test` is put before the extension of the source, which follows its last
dot, or at the end where no dot but perhaps the first character cuts the name. -/
def IsTestNameOf (file test : Text) : Prop :=
  (∃ stem extension, file = stem ++ '.' :: extension ∧ stem ≠ [] ∧ '.' ∉ extension ∧
    test = stem ++ ".test".toList ++ '.' :: extension) ∨
  (∀ stem extension, file = stem ++ '.' :: extension → '.' ∉ extension → stem = []) ∧
    test = file ++ ".test".toList

theorem isTestNameOf_testName (file : Text) :
    IsTestNameOf file (testName (FileName.ofText file)) := by
  rcases cutAtLastDot_testName file with ⟨stem, extension, hname, hstem, hcut⟩ | ⟨hname, -⟩
  · have hfile : file = stem ++ '.' :: extension := by
      calc file = (FileName.ofText file).text := (FileName.text_ofText file).symm
        _ = stem ++ '.' :: extension := by rw [hname]; rfl
    exact Or.inl ⟨stem, extension, hfile, hstem, not_dot_mem_of_cutAtLastDot hcut,
      by rw [hname]; rfl⟩
  · refine Or.inr ⟨?_, by rw [hname]; rfl⟩
    intro stem extension hfile hdot
    by_contra hstem
    obtain ⟨c, stem, rfl⟩ := List.exists_cons_of_ne_nil hstem
    -- The last dot would cut the name.
    have hcut : cutAtLastDot file = some (c :: stem, extension) := by
      rw [hfile]
      exact cutAtLastDot_append hdot
    unfold FileName.ofText at hname
    rw [hcut] at hname
    cases hname

namespace Location

variable {l : Location} {s : PathSettings} {relative : Path}

theorem testPath_of_not_under (h : ¬ l.root.components <+: l.source.components) :
    l.testPath s = .error (.outsideWorkspace l.source l.root) := by
  apply testPath_of_relative_error
  unfold relative
  rw [Path.under?_eq_none_iff.mpr h]

/-- What becomes of a source by what follows the root in its path: a step up leads outside, nothing
at all is the root, and names are its path in the workspace. -/
theorem testPath_of_append (s : PathSettings) (hroot : l.root.text ≠ [])
    {rest : List Path.Component} (h : l.source.components = l.root.components ++ rest) :
    .parent ∈ rest ∧ l.testPath s = .error (.outsideWorkspace l.source l.root) ∨
    rest = [] ∧ l.testPath s = .error (.notAFile l.source) ∨
    ∃ relative names file, relative.components = rest ∧ rest = (names ++ [file]).map .name ∧
      l.testPath s =
        .ok ((l.testDirectory s relative).child (testName (FileName.ofText file))) := by
  obtain ⟨relative, hunder, rfl⟩ := Path.exists_under? h
  have hrelative : l.relative =
      if .parent ∈ relative.components then .error (.outsideWorkspace l.source l.root)
      else if relative.fileName?.isNone then .error (.notAFile l.source)
      else .ok relative := by
    unfold Location.relative
    rw [hunder]
  by_cases hup : .parent ∈ relative.components
  · rw [if_pos hup] at hrelative
    exact Or.inl ⟨hup, testPath_of_relative_error s hrelative⟩
  rw [if_neg hup] at hrelative
  -- Without steps up all components are names.
  have hplain : relative.IsPlain :=
    Path.isPlain_under? hunder (Or.inl (mt Path.components_eq_nil_iff.mp hroot))
  have hnames := hplain.components_eq_names hup
  rcases List.eq_nil_or_concat relative.names with hnil | ⟨names, file, hlast⟩
  · rw [hnil, List.map_nil] at hnames
    have hnone : relative.fileName? = none := by
      unfold Path.fileName?
      rw [hnames]
      rfl
    rw [hnone, Option.isNone_none, if_pos rfl] at hrelative
    exact Or.inr (Or.inl ⟨hnames, testPath_of_relative_error s hrelative⟩)
  · rw [hlast, List.concat_eq_append] at hnames
    have hfile : relative.fileName? = some file := by
      unfold Path.fileName?
      rw [hnames, List.map_append, List.map_singleton, List.getLast?_concat]
      rfl
    rw [hfile, Option.isNone_some, if_neg Bool.false_ne_true] at hrelative
    refine Or.inr (Or.inr ⟨relative, names, file, rfl, hnames, ?_⟩)
    rw [testPath_of_relative s hrelative, Path.file?, hfile]
    rfl

/-- The directory of a test: that of all tests, and the way to the source in the workspace without
the directory of the sources. -/
theorem components_testDirectory (l : Location) {names : List Text}
    (hnames : (s.withoutSourceRoot relative).components = names.map .name) :
    (l.testDirectory s relative).components =
      (l.root.join ⟨s.testsDir⟩).components ++ names.dropLast.map .name := by
  have houter := Path.components_parent? (s.withoutSourceRoot relative)
  rw [hnames] at houter
  unfold testDirectory
  dsimp only
  by_cases hnil : names = []
  · rw [hnil] at houter ⊢
    rw [Option.map_eq_none_iff.mp houter]
    exact (List.append_nil _).symm
  · rw [Path.outer_names hnil] at houter
    obtain ⟨directory, hparent, hdirectory⟩ := Option.map_eq_some_iff.mp houter
    rw [hparent]
    dsimp only
    split
    · rename_i hempty
      rw [← hdirectory, Path.components_eq_nil_iff.mpr hempty, List.append_nil]
    · rw [Path.components_join, hdirectory, Path.joined_names]

/-- Where the test of a source lies whose path in the workspace is made of names. -/
theorem components_testPath (l : Location) (s : PathSettings) {names : List Text} {file : Text}
    (hrelative : relative.components = (names ++ [file]).map .name) :
    ∃ dirs : List Text, dirs.map Path.Component.name <:+ names.map .name ∧
      ((l.testDirectory s relative).child (testName (FileName.ofText file))).components =
        (l.root.join ⟨s.testsDir⟩).components ++
          (dirs ++ [testName (FileName.ofText file)]).map .name := by
  have hfile : Path.Component.name file ∈ relative.components := by
    rw [hrelative]
    simp
  have hslash := not_slash_mem_testName (Path.isName_of_mem_components hfile).2
  obtain ⟨dropped, hdropped⟩ : ∃ dropped,
      relative.components = dropped ++ (s.withoutSourceRoot relative).components :=
    ⟨_, s.components_withoutSourceRoot relative⟩
  rw [hrelative] at hdropped
  obtain ⟨above, inner, hsplit, -, hinner⟩ := List.map_eq_append_iff.mp hdropped
  refine ⟨inner.dropLast, ?_, ?_⟩
  · -- Of the directories some may be left out at the start.
    rcases List.eq_nil_or_concat inner with rfl | ⟨dirs, last, rfl⟩
    · exact List.nil_suffix
    · rw [List.concat_eq_append, ← List.append_assoc] at hsplit
      obtain ⟨rfl, -⟩ := List.append_inj' hsplit rfl
      rw [List.concat_eq_append, List.dropLast_concat, List.map_append]
      exact List.suffix_append _ _
  · rw [Path.components_child _ (isName_testName _) hslash,
      components_testDirectory l hinner.symm, List.append_assoc, List.map_append]
    rfl

section

variable (s) (hroot : l.root.text ≠ [])
include hroot

theorem testPath_eq_outside_iff :
    l.testPath s = .error (.outsideWorkspace l.source l.root) ↔
      ¬ l.root.components <+: l.source.components ∨
        ∃ rest, l.source.components = l.root.components ++ rest ∧ .parent ∈ rest := by
  constructor
  · intro houtside
    by_cases hunder : l.root.components <+: l.source.components
    · obtain ⟨rest, hrest⟩ := hunder
      rcases testPath_of_append s hroot hrest.symm with
        ⟨hup, -⟩ | ⟨-, hfile⟩ | ⟨relative, names, file, -, -, htest⟩
      · exact Or.inr ⟨rest, hrest.symm, hup⟩
      · rw [hfile] at houtside
        cases houtside
      · rw [htest] at houtside
        cases houtside
    · exact Or.inl hunder
  · rintro (hunder | ⟨rest, hrest, hup⟩)
    · exact testPath_of_not_under hunder
    · rcases testPath_of_append s hroot hrest with
        ⟨-, houtside⟩ | ⟨rfl, -⟩ | ⟨-, names, file, -, rfl, -⟩
      · exact houtside
      · cases hup
      · simp at hup

theorem testPath_eq_notAFile_iff :
    l.testPath s = .error (.notAFile l.source) ↔ l.source.components = l.root.components := by
  constructor
  · intro hfile
    by_cases hunder : l.root.components <+: l.source.components
    · obtain ⟨rest, hrest⟩ := hunder
      rcases testPath_of_append s hroot hrest.symm with
        ⟨-, houtside⟩ | ⟨rfl, -⟩ | ⟨relative, names, file, -, -, htest⟩
      · rw [houtside] at hfile
        cases hfile
      · rw [← hrest, List.append_nil]
      · rw [htest] at hfile
        cases hfile
    · rw [testPath_of_not_under hunder] at hfile
      cases hfile
  · intro hsame
    have hnothing : l.source.components = l.root.components ++ [] := by
      rw [hsame, List.append_nil]
    rcases testPath_of_append s hroot hnothing with
      ⟨hup, -⟩ | ⟨-, hfile⟩ | ⟨-, names, file, -, hnames, -⟩
    · cases hup
    · exact hfile
    · simp at hnames

/-- A source with names behind the root has its test where names lead from the directory of the
tests. -/
theorem exists_testPath {rest : List Path.Component}
    (hrest : l.source.components = l.root.components ++ rest) (hne : rest ≠ [])
    (hup : .parent ∉ rest) :
    ∃ p names file test, l.testPath s = .ok p ∧ rest.getLast? = some (.name file) ∧
      p.components = (l.root.join ⟨s.testsDir⟩).components ++ (names ++ [test]).map .name ∧
      names.map .name <:+ rest.dropLast ∧ IsTestNameOf file test := by
  rcases testPath_of_append s hroot hrest with
    ⟨hparent, -⟩ | ⟨hnil, -⟩ | ⟨relative, names, file, rfl, hnames, htest⟩
  · exact absurd hparent hup
  · exact absurd hnil hne
  · obtain ⟨dirs, hdirs, hcomponents⟩ := components_testPath l s hnames
    rw [List.map_append, List.map_singleton] at hnames
    refine ⟨_, dirs, file, _, htest, ?_, hcomponents, ?_, isTestNameOf_testName file⟩
    · rw [hnames, List.getLast?_concat]
    · rw [hnames, List.dropLast_concat]
      exact hdirs

end

end Location

/-- Tests stay inside their directory, and only what cannot have a test is refused: a source is
outside the workspace exactly when its path does not begin with the root or goes up behind it, and
is no file exactly when it is the root. From the directory of the tests, names alone lead to the
test of any other source: directories that the source lies in, and the name of the test. -/
theorem testPath_contained (s : PathSettings) (l : Location) (hroot : l.root.text ≠ []) :
    (l.testPath s = .error (.outsideWorkspace l.source l.root) ↔
      ¬ l.root.components <+: l.source.components ∨
        ∃ rest, l.source.components = l.root.components ++ rest ∧ .parent ∈ rest) ∧
    (l.testPath s = .error (.notAFile l.source) ↔ l.source.components = l.root.components) ∧
    ∀ rest, l.source.components = l.root.components ++ rest → rest ≠ [] → .parent ∉ rest →
      ∃ p names file test, l.testPath s = .ok p ∧ rest.getLast? = some (.name file) ∧
        p.components = (l.root.join ⟨s.testsDir⟩).components ++ (names ++ [test]).map .name ∧
        names.map .name <:+ rest.dropLast ∧ IsTestNameOf file test :=
  ⟨Location.testPath_eq_outside_iff s hroot, Location.testPath_eq_notAFile_iff s hroot,
    fun _ => Location.exists_testPath s hroot⟩

/-- A directory of tests beside the workspace, reached by a step up: a source whose name begins with
a dot has its test there, and a path through `..` is refused, as is the root. -/
theorem testPath_contained_beside :
    let s : PathSettings := { testsDir := "../checks".toList }
    let root : Path := ⟨"/p".toList⟩
    let source : Path := ⟨"/p/src/ui/.card.min.ts".toList⟩
    let away : Path := ⟨"/p/src/../../q.ts".toList⟩
    let itself : Path := ⟨"/p/.".toList⟩
    let test : Path := ⟨"/p/../checks/ui/.card.min.test.ts".toList⟩
    root.text ≠ [] ∧ Location.testPath ⟨root, source⟩ s = .ok test ∧
      (∃ names name, test.components =
        (root.join ⟨s.testsDir⟩).components ++ (names ++ [name]).map .name ∧
        IsTestNameOf ".card.min.ts".toList name) ∧
      Location.testPath ⟨root, away⟩ s = .error (.outsideWorkspace away root) ∧
      Location.testPath ⟨root, itself⟩ s = .error (.notAFile itself) := by
  intro s root source away itself test
  have hroot : root.text ≠ [] := by decide
  have htest : Location.testPath ⟨root, source⟩ s = .ok test := by decide
  have hrest : source.components =
      root.components ++ [.name "src".toList, .name "ui".toList, .name ".card.min.ts".toList] := by
    decide
  refine ⟨hroot, htest, ?_, ?_, ?_⟩
  · obtain ⟨p, names, file, name, hp, hfile, hcomponents, -, hname⟩ :=
      (testPath_contained s ⟨root, source⟩ hroot).2.2 _ hrest (by decide) (by decide)
    obtain rfl : test = p := Except.ok.inj (htest.symm.trans hp)
    obtain rfl : ".card.min.ts".toList = file := Path.Component.name.inj (Option.some.inj hfile)
    exact ⟨names, name, hcomponents, hname⟩
  · have hup : away.components =
        root.components ++ [.name "src".toList, .parent, .parent, .name "q.ts".toList] := by
      decide
    exact (testPath_contained s ⟨root, away⟩ hroot).1.mpr (Or.inr ⟨_, hup, by decide⟩)
  · have hsame : itself.components = root.components := by decide
    exact (testPath_contained s ⟨root, itself⟩ hroot).2.1.mpr hsame

end TestScaffold
