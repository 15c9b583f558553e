import TestScaffold.Proofs.Generation.Containment

/-!
The counterpart of a source among the tests and among the import paths. Both repeat the tree of the
sources: a source has a place in it, directories and a file name, its test lies at this place below
the directory of the tests, and its import path spells the place out. So two sources share a test
exactly when they have one place, and only the directory of the sources, which is left out of the
tree, can give one place to two of them.
-/

namespace TestScaffold

namespace PathSettings

variable (s : PathSettings)

/-- Whether a path in the workspace is the directory of the sources itself. -/
def IsSourceRoot (relative : Path) : Prop :=
  s.sourceRoot.map (fun sources => Path.components ⟨sources⟩) = some relative.components

instance (relative : Path) : Decidable (s.IsSourceRoot relative) :=
  inferInstanceAs (Decidable (_ = _))

/-- Whether `a` is the path that `b`, which does not lie in the directory of the sources, would have
in it. -/
def MovedInto (a b : Path) : Prop :=
  ∃ sources, s.sourceRoot = some sources ∧ b.startsWith ⟨sources⟩ = false ∧
    a.components = (Path.join ⟨sources⟩ b).components

end PathSettings

namespace Path

/-- A path of names that is joined to another one comes after it. -/
theorem components_join_names {q : Path} {names : List Text} (h : q.components = names.map .name)
    (p : Path) : (p.join q).components = p.components ++ q.components := by
  rw [components_join, h, joined_names]

/-- Names can be told apart by the components they are. -/
theorem map_name_inj {names names' : List Text} :
    names.map Component.name = names'.map Component.name ↔ names = names' := by
  have hinjective : Function.Injective Component.name := fun _ _ => Component.name.inj
  exact (List.map_injective_iff.mpr hinjective).eq_iff

theorem startsWith_eq_false_iff {p base : Path} :
    p.startsWith base = false ↔ ¬ base.components <+: p.components := by
  rw [← List.isPrefixOf_iff_prefix, Bool.not_eq_true]
  rfl

end Path

namespace PathSettings

variable {s : PathSettings} {a b relative : Path}

theorem droppedRoot_of_none (hnone : s.sourceRoot = none) : s.droppedRoot relative = [] := by
  unfold droppedRoot
  rw [hnone]

theorem droppedRoot_of_inside {sources : Text} (hsources : s.sourceRoot = some sources)
    (h : Path.components ⟨sources⟩ <+: relative.components) :
    s.droppedRoot relative = Path.components ⟨sources⟩ := by
  have hunder : (relative.under? ⟨sources⟩).isSome = true := by
    rw [Option.isSome_iff_ne_none]
    exact fun hnone => Path.under?_eq_none_iff.mp hnone h
  unfold droppedRoot
  rw [hsources]
  exact if_pos hunder

theorem droppedRoot_of_outside {sources : Text} (hsources : s.sourceRoot = some sources)
    (h : ¬ Path.components ⟨sources⟩ <+: relative.components) : s.droppedRoot relative = [] := by
  have hnone : relative.under? ⟨sources⟩ = none := Path.under?_eq_none_iff.mpr h
  unfold droppedRoot
  rw [hsources]
  simp only [hnone, Option.isSome_none, Bool.false_eq_true, if_false]

/-- Something is left of every path but the directory of the sources. -/
theorem components_withoutSourceRoot_ne_nil (hne : relative.components ≠ [])
    (hsources : ¬ s.IsSourceRoot relative) : (s.withoutSourceRoot relative).components ≠ [] := by
  intro hnil
  have hdropped : relative.components = s.droppedRoot relative := by
    rw [s.components_withoutSourceRoot relative, hnil, List.append_nil]
  cases hroot : s.sourceRoot with
  | none =>
    rw [droppedRoot_of_none hroot] at hdropped
    exact hne hdropped
  | some sources =>
    by_cases hunder : Path.components ⟨sources⟩ <+: relative.components
    · rw [droppedRoot_of_inside hroot hunder] at hdropped
      apply hsources
      unfold IsSourceRoot
      rw [hroot, hdropped]
      rfl
    · rw [droppedRoot_of_outside hroot hunder] at hdropped
      exact hne hdropped

theorem withoutSourceRoot_eq_iff_of_none (hnone : s.sourceRoot = none) :
    (s.withoutSourceRoot a).components = (s.withoutSourceRoot b).components ↔
      a.components = b.components := by
  rw [s.components_withoutSourceRoot a, s.components_withoutSourceRoot b,
    droppedRoot_of_none hnone, droppedRoot_of_none hnone, List.nil_append, List.nil_append]

/-- What is left of a path in the directory of the sources is the path of `b` just when the one is
the other moved into this directory. -/
theorem withoutSourceRoot_eq_iff_movedInto {sources : Text} {names : List Text}
    (hsources : s.sourceRoot = some sources) (hb : b.components = names.map .name)
    (ha : Path.components ⟨sources⟩ <+: a.components)
    (hout : ¬ Path.components ⟨sources⟩ <+: b.components) :
    (s.withoutSourceRoot a).components = b.components ↔ s.MovedInto a b := by
  have hsplit := s.components_withoutSourceRoot a
  rw [droppedRoot_of_inside hsources ha] at hsplit
  have hjoin := Path.components_join_names hb ⟨sources⟩
  constructor
  · intro hsame
    refine ⟨sources, hsources, Path.startsWith_eq_false_iff.mpr hout, ?_⟩
    rw [hsplit, hsame, hjoin]
  · rintro ⟨sources', hsources', -, hmoved⟩
    obtain rfl : sources = sources' := Option.some.inj (hsources.symm.trans hsources')
    rw [hsplit, hjoin] at hmoved
    exact List.append_cancel_left hmoved

theorem not_movedInto_of_inside {sources : Text} (hsources : s.sourceRoot = some sources)
    (hb : Path.components ⟨sources⟩ <+: b.components) : ¬ s.MovedInto a b := by
  rintro ⟨sources', hsources', hout, -⟩
  obtain rfl : sources = sources' := Option.some.inj (hsources.symm.trans hsources')
  exact Path.startsWith_eq_false_iff.mp hout hb

/-- What is moved into the directory of the sources lies in it. -/
theorem MovedInto.inside {sources : Text} {names : List Text} (h : s.MovedInto a b)
    (hsources : s.sourceRoot = some sources) (hb : b.components = names.map .name) :
    Path.components ⟨sources⟩ <+: a.components := by
  obtain ⟨sources', hsources', -, hmoved⟩ := h
  obtain rfl : sources = sources' := Option.some.inj (hsources.symm.trans hsources')
  rw [hmoved, Path.components_join_names hb]
  exact List.prefix_append _ _

/-- The same is left of two paths of names when they are one path, or one of them is the other moved
into the directory of the sources. -/
theorem withoutSourceRoot_eq_iff {namesA namesB : List Text} (ha : a.components = namesA.map .name)
    (hb : b.components = namesB.map .name) :
    (s.withoutSourceRoot a).components = (s.withoutSourceRoot b).components ↔
      a.components = b.components ∨ s.MovedInto a b ∨ s.MovedInto b a := by
  cases hsources : s.sourceRoot with
  | none =>
    have hnever (x y : Path) : ¬ s.MovedInto x y := by
      rintro ⟨sources, hsome, -⟩
      rw [hsources] at hsome
      cases hsome
    rw [withoutSourceRoot_eq_iff_of_none hsources]
    simp only [hnever, or_false]
  | some sources =>
    have hsplitA := s.components_withoutSourceRoot a
    have hsplitB := s.components_withoutSourceRoot b
    by_cases hinA : Path.components ⟨sources⟩ <+: a.components
    · have hnotB := not_movedInto_of_inside (a := b) hsources hinA
      rw [droppedRoot_of_inside hsources hinA] at hsplitA
      by_cases hinB : Path.components ⟨sources⟩ <+: b.components
      · -- Both lose the same components.
        have hnotA := not_movedInto_of_inside (a := a) hsources hinB
        rw [droppedRoot_of_inside hsources hinB] at hsplitB
        rw [hsplitA, hsplitB, List.append_cancel_left_eq]
        simp only [hnotA, hnotB, or_false]
      · have hdiffer : a.components ≠ b.components := fun heq => hinB (heq ▸ hinA)
        rw [droppedRoot_of_outside hsources hinB, List.nil_append] at hsplitB
        rw [← hsplitB, withoutSourceRoot_eq_iff_movedInto hsources hb hinA hinB]
        simp only [hdiffer, hnotB, or_false, false_or]
    · have hnotA : ¬ s.MovedInto a b := fun hmoved => hinA (hmoved.inside hsources hb)
      rw [droppedRoot_of_outside hsources hinA, List.nil_append] at hsplitA
      by_cases hinB : Path.components ⟨sources⟩ <+: b.components
      · have hdiffer : a.components ≠ b.components := fun heq => hinA (heq ▸ hinB)
        rw [← hsplitA, eq_comm, withoutSourceRoot_eq_iff_movedInto hsources ha hinB hinA]
        simp only [hdiffer, hnotA, false_or]
      · have hnotB : ¬ s.MovedInto b a := fun hmoved => hinB (hmoved.inside hsources ha)
        rw [droppedRoot_of_outside hsources hinB, List.nil_append] at hsplitB
        rw [← hsplitA, ← hsplitB]
        simp only [hnotA, hnotB, or_false]

end PathSettings

/-- A path in the workspace has its place in the tree that tests and import paths repeat: there it
lies in the directories `dirs`, under the name `file`. -/
structure PathSettings.LiesAt (s : PathSettings) (relative : Path) (dirs : List Text)
    (file : Text) : Prop where
  fileName : relative.fileName? = some file
  inner : (s.withoutSourceRoot relative).components = (dirs ++ [file]).map .name

namespace PathSettings.LiesAt

variable {s : PathSettings} {relative other : Path} {dirs dirs' : List Text} {file file' : Text}

theorem isName (h : s.LiesAt relative dirs file) :
    ∀ x ∈ dirs ++ [file], Disk.IsName x ∧ '/' ∉ x := by
  intro x hx
  apply Path.isName_of_mem_components (p := s.withoutSourceRoot relative)
  rw [h.inner]
  exact List.mem_map_of_mem hx

/-- Neither the directories nor the stem of the file have a slash. -/
theorem not_slash_mem (h : s.LiesAt relative dirs file) :
    ∀ x ∈ dirs ++ [(FileName.ofText file).stem], '/' ∉ x := by
  intro x hx
  rcases List.mem_append.mp hx with hdir | hstem
  · exact (h.isName x (List.mem_append_left _ hdir)).2
  · rw [List.mem_singleton.mp hstem]
    exact fun hslash => (h.isName file (by simp)).2 (FileName.mem_of_mem_stem hslash)

theorem file?_eq (h : s.LiesAt relative dirs file) :
    relative.file? = some (FileName.ofText file) := by
  unfold Path.file?
  rw [h.fileName]
  rfl

/-- A place is what is left of the path without the directory of the sources. -/
theorem eq_iff (h : s.LiesAt relative dirs file) (h' : s.LiesAt other dirs' file') :
    dirs = dirs' ∧ file = file' ↔
      (s.withoutSourceRoot relative).components = (s.withoutSourceRoot other).components := by
  rw [h.inner, h'.inner, Path.map_name_inj, List.append_singleton_inj]

/-- The import path spells the place out, without the extension of the file. -/
theorem importPath_eq (h : s.LiesAt relative dirs file) (hslash : '\\' ∉ relative.text)
    (hstem : (FileName.ofText file).stem ≠ ['.'] ∧ (FileName.ofText file).stem ≠ ['.', '.']) :
    s.importPath relative =
      s.aliasPrefix ++ Text.join ['/'] (dirs ++ [(FileName.ofText file).stem]) := by
  have hfile : (s.withoutSourceRoot relative).stem? = some (FileName.ofText file).stem := by
    unfold Path.stem? Path.file? Path.fileName?
    rw [h.inner, List.map_append, List.map_singleton, List.getLast?_concat]
    rfl
  have hnames : (s.withoutSourceRoot relative).names = dirs ++ [file] := by
    unfold Path.names
    rw [h.inner, List.filterMap_map]
    simp [Function.comp_def, Path.Component.name?]
  rw [PathSettings.importPath_eq hslash]
  unfold Path.namesWithoutExtension
  rw [hfile, hnames, List.dropLast_concat]
  dsimp only
  rw [if_neg (not_or.mpr hstem)]

end PathSettings.LiesAt

namespace Location

variable {s : PathSettings} {l : Location} {relative : Path} {dirs : List Text} {file : Text}

/-- The path of a source in its workspace is made of names. -/
theorem components_relative (hroot : l.root.text ≠ []) (h : l.relative = .ok relative) :
    relative.components = relative.names.map .name := by
  have hplain : relative.IsPlain := by
    apply Path.isPlain_under? (under?_of_relative h)
    exact Or.inl (mt Path.components_eq_nil_iff.mp hroot)
  exact hplain.components_eq_names (relative_eq_ok h).1

/-- Every source of a workspace but the directory of the sources has a place. -/
theorem exists_liesAt (hroot : l.root.text ≠ []) (h : l.relative = .ok relative)
    (hsources : ¬ s.IsSourceRoot relative) : ∃ dirs file, s.LiesAt relative dirs file := by
  obtain ⟨-, file, hfile⟩ := relative_eq_ok h
  have hnames := components_relative hroot h
  have hne : relative.components ≠ [] := by
    intro hnil
    unfold Path.fileName? at hfile
    rw [hnil] at hfile
    cases hfile
  have hinner := PathSettings.components_withoutSourceRoot_ne_nil hne hsources
  have hsplit := s.components_withoutSourceRoot relative
  -- What is left ends in the same name.
  have hlast : (s.withoutSourceRoot relative).fileName? = some file := by
    rw [← hfile]
    unfold Path.fileName?
    rw [hsplit, List.getLast?_append_of_ne_nil _ hinner]
  rw [hnames] at hsplit
  obtain ⟨above, inner, -, -, hleft⟩ := List.map_eq_append_iff.mp hsplit
  obtain ⟨dirs, last, rfl⟩ : ∃ dirs last, inner = dirs ++ [last] := by
    rcases List.eq_nil_or_concat inner with rfl | ⟨dirs, last, rfl⟩
    · exact absurd hleft.symm hinner
    · exact ⟨dirs, last, List.concat_eq_append⟩
  unfold Path.fileName? at hlast
  rw [← hleft, List.map_append, List.map_singleton, List.getLast?_concat] at hlast
  obtain rfl : last = file := Option.some.inj hlast
  exact ⟨dirs, last, hfile, hleft.symm⟩

/-- The test of a source lies at the place of the source, below the directory of the tests. -/
theorem exists_testPath_of_liesAt (h : l.relative = .ok relative)
    (hplace : s.LiesAt relative dirs file) :
    ∃ d, l.testPath s = .ok d ∧ d.components = (l.root.join ⟨s.testsDir⟩).components ++
      (dirs ++ [testName (FileName.ofText file)]).map .name := by
  have hslash : '/' ∉ testName (FileName.ofText file) :=
    not_slash_mem_testName (hplace.isName file (by simp)).2
  refine ⟨_, testPath_of_relative s h, ?_⟩
  rw [hplace.file?_eq]
  simp only [Option.map_some, Option.getD_some]
  rw [Path.components_child _ (isName_testName _) hslash, components_testDirectory l hplace.inner,
    List.dropLast_concat, List.append_assoc, List.map_append]
  rfl

/-- Two tests lie at one path just when their sources have one place. -/
theorem components_testPath_eq_iff_place {root p q a b d e : Path} {dirs' : List Text}
    {file' : Text} (ha : Location.relative ⟨root, p⟩ = .ok a)
    (hb : Location.relative ⟨root, q⟩ = .ok b)
    (hd : testPath ⟨root, p⟩ s = .ok d) (he : testPath ⟨root, q⟩ s = .ok e)
    (hplace : s.LiesAt a dirs file) (hplace' : s.LiesAt b dirs' file') :
    d.components = e.components ↔ dirs = dirs' ∧ file = file' := by
  obtain ⟨_, htest, hcomponents⟩ := exists_testPath_of_liesAt ha hplace
  obtain ⟨_, htest', hcomponents'⟩ := exists_testPath_of_liesAt hb hplace'
  obtain rfl := Except.ok.inj (hd.symm.trans htest)
  obtain rfl := Except.ok.inj (he.symm.trans htest')
  rw [hcomponents, hcomponents', List.append_cancel_left_eq, Path.map_name_inj,
    List.append_singleton_inj]
  constructor
  · rintro ⟨hdirs, hname⟩
    exact ⟨hdirs, eq_of_testName_eq hname⟩
  · rintro ⟨hdirs, rfl⟩
    exact ⟨hdirs, rfl⟩

end Location

/-- Which sources share a test. For two sources of a workspace, neither of them the directory of the
sources, that is so exactly when they are one source, or one of them is the other moved into the
directory of the sources, in which the other does not lie. Without such a directory every source has
a test of its own. -/
theorem testPath_shared_iff (s : PathSettings) {root p q a b : Path} (hroot : root.text ≠ [])
    (ha : Location.relative ⟨root, p⟩ = .ok a) (hb : Location.relative ⟨root, q⟩ = .ok b)
    (hsourcesA : ¬ s.IsSourceRoot a) (hsourcesB : ¬ s.IsSourceRoot b) :
    ∃ d e, Location.testPath ⟨root, p⟩ s = .ok d ∧ Location.testPath ⟨root, q⟩ s = .ok e ∧
      (d.components = e.components ↔
        a.components = b.components ∨ s.MovedInto a b ∨ s.MovedInto b a) ∧
      (s.sourceRoot = none → d.components = e.components → p.components = q.components) := by
  obtain ⟨dirs, file, hplace⟩ := Location.exists_liesAt (l := ⟨root, p⟩) hroot ha hsourcesA
  obtain ⟨dirs', file', hplace'⟩ := Location.exists_liesAt (l := ⟨root, q⟩) hroot hb hsourcesB
  obtain ⟨d, hd, -⟩ := Location.exists_testPath_of_liesAt ha hplace
  obtain ⟨e, he, -⟩ := Location.exists_testPath_of_liesAt hb hplace'
  have hinner : d.components = e.components ↔
      (s.withoutSourceRoot a).components = (s.withoutSourceRoot b).components := by
    rw [Location.components_testPath_eq_iff_place ha hb hd he hplace hplace']
    exact hplace.eq_iff hplace'
  refine ⟨d, e, hd, he, ?_, ?_⟩
  · rw [hinner]
    exact PathSettings.withoutSourceRoot_eq_iff
      (Location.components_relative (l := ⟨root, p⟩) hroot ha)
      (Location.components_relative (l := ⟨root, q⟩) hroot hb)
  · intro hnone hsame
    rw [hinner, PathSettings.withoutSourceRoot_eq_iff_of_none hnone] at hsame
    rw [Path.components_under? (Location.under?_of_relative ha),
      Path.components_under? (Location.under?_of_relative hb), hsame]

/-- A file that stands in the directory of the sources, which lies two levels down, and one that
stands beside this directory, written with a slash too many. -/
theorem testPath_shared_iff_nested :
    let s : PathSettings := { sourceRoot := some "web/src".toList }
    let root : Path := ⟨"/p".toList⟩
    let p : Path := ⟨"/p/web/src/ui/.card.test".toList⟩
    let q : Path := ⟨"/p/ui//.card.test".toList⟩
    let a : Path := ⟨"web/src/ui/.card.test".toList⟩
    let b : Path := ⟨"ui//.card.test".toList⟩
    root.text ≠ [] ∧ Location.relative ⟨root, p⟩ = .ok a ∧ Location.relative ⟨root, q⟩ = .ok b ∧
      ¬ s.IsSourceRoot a ∧ ¬ s.IsSourceRoot b ∧
      ∃ d e, Location.testPath ⟨root, p⟩ s = .ok d ∧ Location.testPath ⟨root, q⟩ s = .ok e ∧
        d.components = e.components := by
  intro s root p q a b
  have hroot : root.text ≠ [] := by decide
  have ha : Location.relative ⟨root, p⟩ = .ok a := by decide
  have hb : Location.relative ⟨root, q⟩ = .ok b := by decide
  have hsourcesA : ¬ s.IsSourceRoot a := by decide
  have hsourcesB : ¬ s.IsSourceRoot b := by decide
  refine ⟨hroot, ha, hb, hsourcesA, hsourcesB, ?_⟩
  have hmoved : s.MovedInto a b := ⟨"web/src".toList, rfl, by decide, by decide⟩
  obtain ⟨d, e, hd, he, hshared, -⟩ := testPath_shared_iff s hroot ha hb hsourcesA hsourcesB
  exact ⟨d, e, hd, he, hshared.mpr (Or.inr (Or.inl hmoved))⟩

/-- A source that can be imported from where it lies: it is not the directory of the sources, its
path has no backslash, and its name without the extension is not made of one or two dots. -/
structure Location.Importable (l : Location) (s : PathSettings) (relative : Path) : Prop where
  accepted : l.relative = .ok relative
  notSources : ¬ s.IsSourceRoot relative
  noBackslash : '\\' ∉ relative.text
  stem : relative.stem? ≠ some ['.'] ∧ relative.stem? ≠ some ['.', '.']

theorem PathSettings.LiesAt.importPath_of_importable {s : PathSettings} {l : Location}
    {relative : Path} {dirs : List Text} {file : Text} (h : s.LiesAt relative dirs file)
    (himportable : l.Importable s relative) :
    s.importPath relative =
      s.aliasPrefix ++ Text.join ['/'] (dirs ++ [(FileName.ofText file).stem]) := by
  have hstem := himportable.stem
  unfold Path.stem? at hstem
  rw [h.file?_eq, Option.map_some, ne_eq, ne_eq, Option.some.injEq, Option.some.injEq] at hstem
  exact h.importPath_eq himportable.noBackslash hstem

/-- Names that are joined by slashes can be told apart. -/
theorem join_names_eq_iff {names names' : List Text} (hne : names ≠ []) (hne' : names' ≠ [])
    (h : ∀ x ∈ names, '/' ∉ x) (h' : ∀ x ∈ names', '/' ∉ x) :
    Text.join ['/'] names = Text.join ['/'] names' ↔ names = names' := by
  refine ⟨fun hjoin => ?_, fun heq => heq ▸ rfl⟩
  rw [← Text.fields_join hne h, ← Text.fields_join hne' h', hjoin]

/-- With one extension, files of one stem are one. -/
theorem FileName.ofText_injective : Function.Injective FileName.ofText := by
  intro a b h
  rw [← text_ofText a, ← text_ofText b, h]

/-- The import path and the test of a source name the same place: there are directories that lead to
the file from the alias and to the test from the directory of the tests, and between them stands the
stem of the file. So two sources with one extension are imported by one path exactly when they have
one test. -/
theorem importPath_mirrors_testPath (s : PathSettings) {root p a : Path} (hroot : root.text ≠ [])
    (ha : Location.Importable ⟨root, p⟩ s a) :
    ∃ d, Location.testPath ⟨root, p⟩ s = .ok d ∧
      (∃ dirs file, a.file? = some file ∧ (∀ x ∈ dirs, Disk.IsName x ∧ '/' ∉ x) ∧
        s.importPath a = s.aliasPrefix ++ Text.join ['/'] (dirs ++ [file.stem]) ∧
        d.components =
          (root.join ⟨s.testsDir⟩).components ++ (dirs ++ [testName file]).map .name) ∧
      ∀ q b, Location.Importable ⟨root, q⟩ s b →
        a.file?.map FileName.extension = b.file?.map FileName.extension →
        ∃ e, Location.testPath ⟨root, q⟩ s = .ok e ∧
          (s.importPath a = s.importPath b ↔ d.components = e.components) := by
  obtain ⟨dirs, file, hplace⟩ :=
    Location.exists_liesAt (l := ⟨root, p⟩) hroot ha.accepted ha.notSources
  obtain ⟨d, hd, hcomponents⟩ := Location.exists_testPath_of_liesAt ha.accepted hplace
  have himport := hplace.importPath_of_importable ha
  refine ⟨d, hd, ⟨dirs, FileName.ofText file, hplace.file?_eq, ?_, himport, hcomponents⟩, ?_⟩
  · exact fun x hx => hplace.isName x (List.mem_append_left _ hx)
  intro q b hb hextension
  obtain ⟨dirs', file', hplace'⟩ :=
    Location.exists_liesAt (l := ⟨root, q⟩) hroot hb.accepted hb.notSources
  obtain ⟨e, he, -⟩ := Location.exists_testPath_of_liesAt hb.accepted hplace'
  have himport' := hplace'.importPath_of_importable hb
  rw [hplace.file?_eq, hplace'.file?_eq, Option.map_some, Option.map_some,
    Option.some.injEq] at hextension
  refine ⟨e, he, ?_⟩
  rw [himport, himport', List.append_cancel_left_eq,
    join_names_eq_iff (by simp) (by simp) hplace.not_slash_mem hplace'.not_slash_mem,
    List.append_singleton_inj,
    Location.components_testPath_eq_iff_place ha.accepted hb.accepted hd he hplace hplace']
  constructor
  · rintro ⟨hdirs, hstem⟩
    have hname : FileName.ofText file = FileName.ofText file' := by
      rw [FileName.mk.injEq]
      exact ⟨hstem, hextension⟩
    exact ⟨hdirs, FileName.ofText_injective hname⟩
  · rintro ⟨hdirs, rfl⟩
    exact ⟨hdirs, rfl⟩

/-- A hidden file with two dots more in its name, inside the directory of the sources and beside it:
one import path, and one test. -/
theorem importPath_mirrors_testPath_hidden :
    let s : PathSettings := {}
    let root : Path := ⟨"/p".toList⟩
    let p : Path := ⟨"/p/src/ui/.card.min.ts".toList⟩
    let q : Path := ⟨"/p/ui/.card.min.ts".toList⟩
    let a : Path := ⟨"src/ui/.card.min.ts".toList⟩
    let b : Path := ⟨"ui/.card.min.ts".toList⟩
    root.text ≠ [] ∧ Location.Importable ⟨root, p⟩ s a ∧ Location.Importable ⟨root, q⟩ s b ∧
      s.importPath a = "@/ui/.card.min".toList ∧
      ∃ d e, Location.testPath ⟨root, p⟩ s = .ok d ∧ Location.testPath ⟨root, q⟩ s = .ok e ∧
        d.components = e.components := by
  intro s root p q a b
  have hroot : root.text ≠ [] := by decide
  have ha : Location.Importable ⟨root, p⟩ s a := ⟨by decide, by decide, by decide, by decide⟩
  have hb : Location.Importable ⟨root, q⟩ s b := ⟨by decide, by decide, by decide, by decide⟩
  have himport : s.importPath a = "@/ui/.card.min".toList := by decide
  obtain ⟨d, hd, -, hpair⟩ := importPath_mirrors_testPath s hroot ha
  obtain ⟨e, he, hsame⟩ := hpair q b hb (by decide)
  exact ⟨hroot, ha, hb, himport, d, e, hd, he, hsame.mp (himport.trans (by decide))⟩

end TestScaffold
