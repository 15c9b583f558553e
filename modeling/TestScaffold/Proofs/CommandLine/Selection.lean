import TestScaffold.CommandLine.Run
import TestScaffold.Proofs.Path.Steps

/-!
What a command selects. The root of its workspace is an absolute path, whether it is given or
found; and from a selection on, a command is what becomes of its sources.
-/

namespace TestScaffold

section

variable {ε ε' α β : Type}

/-- A computation comes to a result by way of a result of its first part. -/
theorem bind_eq_ok_iff {first : Except ε α} {rest : α → Except ε β} {b : β} :
    first >>= rest = .ok b ↔ ∃ a, first = .ok a ∧ rest a = .ok b := by
  cases first with
  | error e => simp [bind, Except.bind]
  | ok a => simp [bind, Except.bind]

/-- A computation fails in its first part or from the result of this part on. -/
theorem bind_eq_error_iff {first : Except ε α} {rest : α → Except ε β} {e : ε} :
    first >>= rest = .error e ↔
      first = .error e ∨ ∃ a, first = .ok a ∧ rest a = .error e := by
  cases first with
  | error e' => simp [bind, Except.bind]
  | ok a => simp [bind, Except.bind]

theorem mapError_eq_ok_iff {attempt : Except ε α} {wording : ε → ε'} {a : α} :
    attempt.mapError wording = .ok a ↔ attempt = .ok a := by
  cases attempt with
  | error e => simp [Except.mapError]
  | ok a' => simp [Except.mapError]

theorem mapError_eq_error_iff {attempt : Except ε α} {wording : ε → ε'} {e' : ε'} :
    attempt.mapError wording = .error e' ↔ ∃ e, attempt = .error e ∧ wording e = e' := by
  cases attempt with
  | error e => simp [Except.mapError]
  | ok a => simp [Except.mapError]

end

/-- An environment that overrides no setting. -/
def plainly : Environment where
  userFile := ⟨"/home/user/.config/rtgen/config.toml".toList⟩

namespace LocalFiles

variable {l : LocalFiles} {env : Environment} {o : TestOptions} {x : Selection}

theorem isAbsolute_currentDirectory (l : LocalFiles) : l.currentDirectory.isAbsolute = true :=
  rfl

theorem isAbsolute_of_findRoot {markers : List Text} {p root : Path} (hp : p.isAbsolute = true)
    (h : l.findRoot markers p = .ok root) : root.isAbsolute = true := by
  unfold findRoot at h
  dsimp only at h
  split at h
  · rename_i found hfound
    obtain rfl := Except.ok.inj h
    have hmem := List.mem_of_find?_eq_some hfound
    split at hmem
    · rcases List.mem_cons.mp hmem with rfl | habove
      · exact hp
      · exact Path.isAbsolute_of_mem_parents hp habove
    · exact Path.isAbsolute_of_mem_parents hp hmem
  · cases h

/-- The root of a workspace is an absolute path, given or found. -/
theorem isAbsolute_of_rootOf {given : Option Path} {p root : Path} (hp : p.isAbsolute = true)
    (h : l.rootOf env given p = .ok root) : root.isAbsolute = true := by
  unfold rootOf at h
  cases given with
  | some written =>
    obtain rfl := Except.ok.inj h
    exact Path.isAbsolute_absolute l.isAbsolute_currentDirectory written
  | none =>
    obtain ⟨s, -, hfound⟩ := bind_eq_ok_iff.mp h
    exact isAbsolute_of_findRoot hp (mapError_eq_ok_iff.mp hfound)

/-- What is selected: the root and its settings, and the sources in the directory that the options
name, or what they name itself. -/
theorem select_eq_ok_iff :
    l.select env o = .ok x ↔
      let path := Path.absolute l.currentDirectory o.path
      l.rootOf env o.root path = .ok x.root ∧
        l.workspaceSettings env.overrides env.userFile x.root = .ok x.settings ∧
        if l.isDirectory path then l.collectSources x.settings x.root path = .ok x.sources
        else x.sources = [path] := by
  obtain ⟨root, settings, sources⟩ := x
  unfold select
  dsimp only
  rw [bind_eq_ok_iff]
  constructor
  · rintro ⟨root', hroot, h⟩
    obtain ⟨settings', hsettings, h⟩ := bind_eq_ok_iff.mp h
    split at h
    · rename_i hdirectory
      obtain ⟨sources', hsources, h⟩ := bind_eq_ok_iff.mp h
      obtain ⟨rfl, rfl, rfl⟩ := Selection.mk.inj (Except.ok.inj h)
      rw [if_pos hdirectory]
      exact ⟨hroot, mapError_eq_ok_iff.mp hsettings, mapError_eq_ok_iff.mp hsources⟩
    · rename_i hfile
      obtain ⟨sources', hsources, h⟩ := bind_eq_ok_iff.mp h
      obtain ⟨rfl, rfl, rfl⟩ := Selection.mk.inj (Except.ok.inj h)
      rw [if_neg hfile]
      exact ⟨hroot, mapError_eq_ok_iff.mp hsettings, (Except.ok.inj hsources).symm⟩
  · rintro ⟨hroot, hsettings, hsources⟩
    refine ⟨root, hroot, bind_eq_ok_iff.mpr ⟨settings, mapError_eq_ok_iff.mpr hsettings, ?_⟩⟩
    split
    · rename_i hdirectory
      rw [if_pos hdirectory] at hsources
      exact bind_eq_ok_iff.mpr ⟨sources, mapError_eq_ok_iff.mpr hsources, rfl⟩
    · rename_i hfile
      rw [if_neg hfile] at hsources
      exact bind_eq_ok_iff.mpr ⟨sources, congrArg Except.ok hsources.symm, rfl⟩

theorem isAbsolute_root_of_select (h : l.select env o = .ok x) : x.root.isAbsolute = true :=
  isAbsolute_of_rootOf (Path.isAbsolute_absolute l.isAbsolute_currentDirectory o.path)
    (select_eq_ok_iff.mp h).1

/-- What is selected depends on the path and the root alone. -/
theorem select_congr {o' : TestOptions} (hpath : o'.path = o.path) (hroot : o'.root = o.root) :
    l.select env o' = l.select env o := by
  unfold select
  rw [hpath, hroot]

/-- The sources that are visited in a directory are selected, if that is in their order. -/
theorem select_of_directory {given p root : Path} {settings : Settings} {top : Place}
    {sources : List Path} (hgiven : o.root = some given)
    (hpath : Path.absolute l.currentDirectory o.path = p)
    (hroot : Path.absolute l.currentDirectory given = root)
    (hsettings : l.workspaceSettings env.overrides env.userFile root = .ok settings)
    (hfind : l.find p = .ok (top, .directory))
    (hfiles : ((l.disk.visitedFiles top).map fun place =>
      (place.drop top.length).foldl Path.child p).filter (isSource settings root) = sources)
    (hsorted : sources.Pairwise fun a b => (Path.order a b).isLE = true) :
    l.select env o = .ok { root, settings, sources } := by
  have hdirectory : l.isDirectory p = true := by
    unfold isDirectory
    rw [hfind]
  have hcollect : l.collectSources settings root p = .ok sources := by
    unfold collectSources
    rw [hfind]
    dsimp only
    rw [hfiles, List.mergeSort_of_pairwise hsorted]
  unfold select rootOf
  simp only [hgiven, hpath, hroot, hsettings, hdirectory, hcollect, if_true, bind, Except.bind,
    Except.mapError]

theorem run_of_read {arguments : List Text}
    (hread : Command.read arguments = .ok (.createTests o)) :
    l.run env arguments = l.createTests env o := by
  unfold run
  rw [hread]
  rfl

theorem createTests_of_nothing (hselect : l.select env o = .ok x) (hsources : x.sources = []) :
    l.createTests env o =
      { files := l, output := line ("No component files found under ".toList ++ o.path.text) } := by
  unfold createTests
  rw [hselect]
  dsimp only
  rw [if_pos hsources]

theorem createTests_of_select (hselect : l.select env o = .ok x) (hsources : x.sources ≠ [])
    (hdry : .dryRun ∉ o.flags) : l.createTests env o = l.createSelected x o.flags := by
  unfold createTests
  rw [hselect]
  dsimp only
  rw [if_neg hsources, if_neg hdry]

end LocalFiles

end TestScaffold
