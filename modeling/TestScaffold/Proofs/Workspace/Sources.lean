import TestScaffold.Proofs.Disk.Names
import TestScaffold.Proofs.Generation.Agreement
import TestScaffold.Proofs.Path.Absolute
import TestScaffold.Proofs.Path.Order
import TestScaffold.Workspace

/-!
Which files count as sources. Each source that is collected below a directory is a file that its
path points to, and its name is not that of a test. The test of a source with an extension is
named as one, so it is not collected, whatever the directory of the tests is.
-/

namespace TestScaffold

theorem Text.occursIn_append (front part back : Text) :
    Text.occursIn part (front ++ (part ++ back)) = true := by
  induction front with
  | nil =>
    have hstart : (part ++ back).startsWith part = true := Text.startsWith_iff.mpr ⟨back, rfl⟩
    rw [List.nil_append]
    cases htext : part ++ back with
    | nil =>
      rw [(List.append_eq_nil_iff.mp htext).1]
      rfl
    | cons c t =>
      rw [htext] at hstart
      unfold Text.occursIn
      rw [hstart, Bool.true_or]
  | cons c front ih =>
    rw [List.cons_append, Text.occursIn, ih, Bool.or_true]

/-- Whether a name is one that tests of sources with an extension have. -/
def isTestName (name : Text) : Bool :=
  Text.occursIn ".test.".toList name

/-- Whether the entry at a place has a name, and is named as a test. -/
def Disk.isTestPlace (place : Place) : Bool :=
  place.getLast?.any fun name => isTestName name && decide (IsName name ∧ '/' ∉ name)

theorem isTestName_eq_false_of_isSourceName {name : Text}
    (h : LocalFiles.isSourceName name = true) : isTestName name = false := by
  unfold LocalFiles.isSourceName at h
  rw [Bool.not_eq_true'] at h
  exact (Bool.or_eq_false_iff.mp (Bool.or_eq_false_iff.mp h).1).2

/-- A name with an extension, between whose dot and the stem `.test` is put, is named as a test. -/
theorem isTestName_testName {f : FileName} (h : f.extension ≠ none) :
    isTestName (testName f) = true := by
  obtain ⟨extension, hextension⟩ := Option.ne_none_iff_exists'.mp h
  have htest : ".test".toList ++ ['.'] = ".test.".toList := rfl
  have hname : testName f = f.stem ++ (".test.".toList ++ extension) := by
    unfold testName FileName.text
    rw [hextension, ← htest]
    simp
  rw [hname]
  exact Text.occursIn_append _ _ _

theorem Location.isTestName_of_testPath {l : Location} {s : PathSettings} {d : Path}
    (h : l.testPath s = .ok d) (hextension : l.source.extension ≠ []) :
    ∃ name, d.fileName? = some name ∧ isTestName name = true := by
  obtain ⟨name, hsource, htest⟩ := fileName?_of_testPath h
  refine ⟨_, htest, isTestName_testName ?_⟩
  intro hnone
  apply hextension
  unfold Path.extension Path.file?
  rw [hsource, Option.map_some, Option.bind_some, hnone, Option.getD_none]

namespace LocalFiles

/-- A path that points to a file which is not named as a test. -/
def IsSourceFile (l : LocalFiles) (p : Path) : Prop :=
  ∃ place content, l.PointsTo p place ∧ l.disk.get? place = some (.file content) ∧
    Disk.isTestPlace place = false

variable {l : LocalFiles} {s : Settings} {root directory p d : Path} {sources : List Path}

theorem extension_mem_of_isSource (h : isSource s root p = true) :
    p.extension ∈ s.scan.sourceExtensions := by
  unfold isSource at h
  simp only [Bool.and_eq_true] at h
  exact List.contains_iff_mem.mp h.1.2

theorem extension_ne_nil_of_isSource (hextensions : [] ∉ s.scan.sourceExtensions)
    (h : isSource s root p = true) : p.extension ≠ [] := by
  intro hempty
  exact hextensions (hempty ▸ extension_mem_of_isSource h)

theorem isSourceName_of_isSource (h : isSource s root p = true) :
    isSourceName (p.fileName?.getD []) = true := by
  unfold isSource at h
  simp only [Bool.and_eq_true] at h
  exact h.2

theorem not_isSource_of_isTestName {name : Text} (hname : p.fileName? = some name)
    (htest : isTestName name = true) : isSource s root p = false := by
  rw [← Bool.not_eq_true]
  intro h
  have hsource := isTestName_eq_false_of_isSourceName (isSourceName_of_isSource h)
  rw [hname, Option.getD_some, htest] at hsource
  cases hsource

theorem mem_visitedFiles {disk : Disk} {top place : Place} :
    place ∈ disk.visitedFiles top ↔
      ∃ content, (place, Entry.file content) ∈ disk.entries ∧ disk.visits top place = true := by
  unfold Disk.visitedFiles
  rw [List.mem_filterMap]
  constructor
  · rintro ⟨⟨q, entry⟩, hentry, hq⟩
    cases entry with
    | directory => cases hq
    | file content =>
      dsimp only at hq
      split at hq
      · rename_i hvisits
        obtain rfl := Option.some.inj hq
        exact ⟨content, hentry, hvisits⟩
      · cases hq
  · rintro ⟨content, hentry, hvisits⟩
    exact ⟨(place, .file content), hentry, if_pos hvisits⟩

theorem below_of_visits {disk : Disk} {top place : Place} (h : disk.visits top place = true) :
    ∃ names, names ≠ [] ∧ place = top ++ names := by
  unfold Disk.visits at h
  simp only [Bool.and_eq_true, decide_eq_true_eq] at h
  obtain ⟨names, rfl⟩ := List.isPrefixOf_iff_prefix.mp h.1.1
  refine ⟨names, ?_, rfl⟩
  rintro rfl
  simp at h

theorem collectSources_eq_ok_iff :
    l.collectSources s root directory = .ok sources ↔
      ∃ top, l.find directory = .ok (top, .directory) ∧
        (((l.disk.visitedFiles top).map fun place =>
          (place.drop top.length).foldl Path.child directory).filter
            (isSource s root)).mergeSort (fun p q => (Path.order p q).isLE) = sources := by
  unfold collectSources
  rcases l.find directory with e | ⟨top, _ | content⟩
  · simp
  · simp
  · simp

theorem isDirectory_of_collectSources (hcollect : l.collectSources s root directory = .ok sources) :
    l.isDirectory directory = true := by
  obtain ⟨top, hfind, -⟩ := collectSources_eq_ok_iff.mp hcollect
  exact isDirectory_of_find hfind

/-- What is collected below a directory is the path of a file there, put together from the path of
the directory and the names that lead down. -/
theorem exists_names_of_mem_collectSources (hl : l.WellFormed) (hnamed : l.disk.Named)
    (hcollect : l.collectSources s root directory = .ok sources) (hp : p ∈ sources) :
    isSource s root p = true ∧ ∃ top names content,
      l.find directory = .ok (top, .directory) ∧ names ≠ [] ∧
      (∀ x ∈ names, Disk.IsName x ∧ '/' ∉ x) ∧
      l.disk.get? (top ++ names) = some (.file content) ∧ p = names.foldl Path.child directory := by
  obtain ⟨top, hfind, rfl⟩ := collectSources_eq_ok_iff.mp hcollect
  obtain ⟨hfile, hsource⟩ := List.mem_filter.mp (List.mem_mergeSort.mp hp)
  obtain ⟨place, hplace, rfl⟩ := List.mem_map.mp hfile
  obtain ⟨content, hentry, hvisits⟩ := mem_visitedFiles.mp hplace
  obtain ⟨names, hne, rfl⟩ := below_of_visits hvisits
  refine ⟨hsource, top, names, content, hfind, hne, ?_, hl.tree.get?_of_mem hentry, ?_⟩
  · exact fun x hx => hnamed _ hentry x (List.mem_append_right top hx)
  · rw [List.drop_left]

/-- What is collected below a directory are sources that their paths point to. -/
theorem isSource_of_mem_collectSources (hl : l.WellFormed) (hnamed : l.disk.Named)
    (hcollect : l.collectSources s root directory = .ok sources) (hp : p ∈ sources) :
    isSource s root p = true ∧ l.IsSourceFile p := by
  obtain ⟨hsource, top, names, content, hfind, hne, hnames, hthere, rfl⟩ :=
    exists_names_of_mem_collectSources hl hnamed hcollect hp
  have hpoints := pointsTo_descend hl.tree hfind hne hnames
    (by rw [hthere]; exact Option.some_ne_none _)
  refine ⟨hsource, _, content, hpoints, hthere, ?_⟩
  -- The place and the path end in the same name, which is that of a source.
  obtain ⟨init, name, rfl⟩ : ∃ init name, names = init ++ [name] :=
    ⟨names.dropLast, names.getLast hne, (List.dropLast_append_getLast hne).symm⟩
  obtain ⟨hname, hslash⟩ := hnames name (by simp)
  have hsourceName := isSourceName_of_isSource hsource
  rw [fileName?_descend _ _ hname hslash, Option.getD_some] at hsourceName
  unfold Disk.isTestPlace
  rw [← List.append_assoc, List.getLast?_concat, Option.any_some,
    isTestName_eq_false_of_isSourceName hsourceName, Bool.false_and]

/-- The sources are collected in their order. -/
theorem pairwise_collectSources (hcollect : l.collectSources s root directory = .ok sources) :
    sources.Pairwise fun p q => (Path.order p q).isLE = true := by
  obtain ⟨top, -, rfl⟩ := collectSources_eq_ok_iff.mp hcollect
  exact Path.pairwise_order_mergeSort _

/-- A source that is collected below a tidy path is written as the absolute path that it is. -/
theorem absolute_of_mem_collectSources (hl : l.WellFormed) (hnamed : l.disk.Named)
    {slashes : Nat} {steps : List Text} (htidy : directory.Tidy slashes steps)
    (hcollect : l.collectSources s root directory = .ok sources) (hp : p ∈ sources) (cwd : Path) :
    Path.absolute cwd p = p := by
  obtain ⟨-, top, names, content, -, hne, hnames, -, rfl⟩ :=
    exists_names_of_mem_collectSources hl hnamed hcollect hp
  have hsteps : ∀ x ∈ names, '/' ∉ x ∧ Path.isNullSegment x = false :=
    fun x hx => ⟨(hnames x hx).2, (hnames x hx).1.isNullSegment_eq⟩
  refine (htidy.foldl_child hsteps).absolute_eq ?_ cwd
  -- The last segment is the last of the names.
  rw [htidy.segments_foldl_child hne hsteps, ← List.append_assoc,
    List.getLast?_append_of_ne_nil _ hne]
  intro hend
  cases (hsteps [] (List.mem_of_mem_getLast? hend)).2

/-- The test of a source is not collected itself: not in this workspace or another, before or
after it is written. -/
theorem testPath_not_mem_collectSources (hextensions : [] ∉ s.scan.sourceExtensions)
    (hsource : isSource s root p = true) (hd : Location.testPath ⟨root, p⟩ s.paths = .ok d)
    {l' : LocalFiles} {root' directory' : Path} {others : List Path}
    (hcollect : l'.collectSources s root' directory' = .ok others) :
    ∀ q ∈ others, q.components ≠ d.components := by
  obtain ⟨name, hname, htest⟩ := Location.isTestName_of_testPath (l := ⟨root, p⟩) hd
    (extension_ne_nil_of_isSource hextensions hsource)
  intro q hq heq
  have hqname : q.fileName? = some name := by
    rw [← hname]
    exact congrArg (fun components => components.getLast?.bind Path.Component.name?) heq
  obtain ⟨top, -, rfl⟩ := collectSources_eq_ok_iff.mp hcollect
  have hkept := (List.mem_filter.mp (List.mem_mergeSort.mp hq)).2
  rw [not_isSource_of_isTestName hqname htest] at hkept
  cases hkept

end LocalFiles

end TestScaffold
