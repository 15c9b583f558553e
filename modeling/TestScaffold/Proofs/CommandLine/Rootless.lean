import TestScaffold.Proofs.CommandLine.Batch
import TestScaffold.Proofs.Generation.ReadBack
import TestScaffold.Proofs.Workspace.Root

/-!
Commands that are given no root. The root is then found above the path that they name, and whatever
is selected lies under it. Such a command can still fail, for want of a marker, for its settings or
in a write, but not because one of its sources lay outside the workspace or was no file in it.
-/

namespace TestScaffold

/-- Whether an error says that a source does not lie in its workspace as a file. -/
def GenerationError.isMisplaced : GenerationError → Bool
  | outsideWorkspace _ _ | notAFile _ => true
  | _ => false

namespace Path

variable {cwd p : Path}

theorem up_not_mem_foldl_child {names : List Text} (hp : ['.', '.'] ∉ p.segments)
    (hnames : ∀ x ∈ names, '/' ∉ x ∧ x ≠ ['.', '.']) :
    ['.', '.'] ∉ (names.foldl child p).segments := by
  induction names generalizing p with
  | nil => exact hp
  | cons name names ih =>
    obtain ⟨⟨hslash, hname⟩, hothers⟩ := List.forall_mem_cons.mp hnames
    apply ih _ hothers
    intro hup
    rcases mem_segments_join hup with hbefore | hhere
    · exact hp hbefore
    · have hsegments : segments ⟨name⟩ = [name] := Text.fields_of_not_mem hslash
      rw [hsegments] at hhere
      exact hname (List.mem_singleton.mp hhere).symm

/-- Without steps up, a path stands for an absolute path without any. -/
theorem parent_not_mem_absolute (hcwd : .parent ∉ cwd.components) (hp : .parent ∉ p.components) :
    .parent ∉ (absolute cwd p).components := by
  rw [parent_mem_components_iff] at hcwd hp ⊢
  have hroot : ['.', '.'] ∉ p.writtenRoot.segments := by
    unfold writtenRoot
    split <;> decide
  have hstart : ['.', '.'] ∉ (if p.isAbsolute then p.writtenRoot else cwd).segments := by
    split
    · exact hroot
    · exact hcwd
  have hsteps : ∀ x ∈ p.layout.segments.filter (!isNullSegment ·), '/' ∉ x ∧ x ≠ ['.', '.'] := by
    intro x hx
    refine ⟨(mem_filter_layout hx).1, ?_⟩
    rintro rfl
    exact hp (mem_segments_of_mem_layout (List.mem_filter.mp hx).1)
  have hfull := up_not_mem_foldl_child hstart hsteps
  unfold absolute
  dsimp only
  split
  · intro hup
    rcases mem_segments_join hup with hbefore | hend
    · exact hfull hbefore
    · exact absurd hend (by decide)
  · exact hfull

end Path

section

variable {s : Settings} {l : LocalFiles} {r : Request} {d : Path} {e : GenerationError}

/-- A request that has a destination fails at most in its write. -/
theorem Request.isMisplaced_of_carryOut (hdest : r.destination s = .ok d)
    (h : (r.carryOut s l).2 = .error e) : e.isMisplaced = false := by
  obtain ⟨relative, -, hplan⟩ := Invocation.plan_of_destination l hdest
  unfold carryOut at h
  rw [hdest, hplan] at h
  dsimp only at h
  split at h
  · cases h
  · split at h
    · obtain rfl := Except.error.inj h
      rfl
    · cases h

/-- In a batch of requests that have destinations none is told that its source is misplaced. -/
theorem isMisplaced_of_mem_turns {requests : List Request}
    (hdest : ∀ r ∈ requests, ∃ d, r.destination s = .ok d) {t : Turn}
    (ht : t ∈ turns s l requests) (h : t.result = .error e) : e.isMisplaced = false := by
  induction requests generalizing l with
  | nil => cases ht
  | cons r requests ih =>
    obtain ⟨⟨d, hd⟩, hothers⟩ := List.forall_mem_cons.mp hdest
    rw [turns_cons_eq] at ht
    rcases List.mem_cons.mp ht with rfl | hlater
    · exact Request.isMisplaced_of_carryOut hd h
    · exact ih hothers hlater

theorem preview_of_testPath {root : Path} {sources : List Path}
    (h : ∀ source ∈ sources, ∃ d, Location.testPath ⟨root, source⟩ s.paths = .ok d) :
    (preview s l root sources).2 = none := by
  induction sources with
  | nil => rfl
  | cons source sources ih =>
    obtain ⟨⟨d, hd⟩, hothers⟩ := List.forall_mem_cons.mp h
    obtain ⟨relative, -, hplan⟩ := plan_of_testPath l hd
    unfold preview
    rw [hplan]
    exact ih hothers

end

namespace LocalFiles

variable {l : LocalFiles} {env : Environment} {o : TestOptions} {x : Selection}
  {e : GenerationError}

theorem parent_not_mem_currentDirectory (hl : l.WellFormed) (hnamed : l.disk.Named) :
    .parent ∉ l.currentDirectory.components := by
  have hnames := hnamed.isName_of_get? (hl.cwd ▸ Option.some_ne_none _)
  have hcwd : ['.', '.'] ∉ l.cwd := fun hup => (hnames _ hup).1.2.2 rfl
  rw [Path.parent_mem_components_iff]
  rcases (tidy_currentDirectory hl hnamed).segments with hsegments | ⟨hsegments, -⟩
  · rw [hsegments]
    simpa using hcwd
  · rw [hsegments]
    simpa using hcwd

theorem collectSources_eq_error {s : Settings} {root directory : Path}
    (h : l.collectSources s root directory = .error e) : e = .walk directory := by
  unfold collectSources at h
  split at h
  · cases h
  · exact (Except.error.inj h).symm

theorem isMisplaced_of_rootOf {given : Option Path} {p : Path}
    (h : l.rootOf env given p = .error (.generation e)) : e.isMisplaced = false := by
  unfold rootOf at h
  cases given with
  | some written => cases h
  | none =>
    rcases bind_eq_error_iff.mp h with hsettings | ⟨s, -, hfind⟩
    · obtain ⟨cause, -, hcause⟩ := mapError_eq_error_iff.mp hsettings
      cases hcause
    · obtain ⟨e', hnowhere, hcause⟩ := mapError_eq_error_iff.mp hfind
      obtain rfl : e' = e := Failure.generation.inj hcause
      rw [(findRoot_eq_error_iff.mp hnowhere).1]
      rfl

/-- A selection fails for its root, its settings or the walk, before there are any sources. -/
theorem isMisplaced_of_select (h : l.select env o = .error (.generation e)) :
    e.isMisplaced = false := by
  unfold select at h
  dsimp only at h
  rcases bind_eq_error_iff.mp h with hroot | ⟨root, -, h⟩
  · exact isMisplaced_of_rootOf hroot
  rcases bind_eq_error_iff.mp h with hsettings | ⟨s, -, h⟩
  · obtain ⟨cause, -, hcause⟩ := mapError_eq_error_iff.mp hsettings
    cases hcause
  split at h
  · rcases bind_eq_error_iff.mp h with hcollect | ⟨sources, -, h⟩
    · obtain ⟨e', hwalk, hcause⟩ := mapError_eq_error_iff.mp hcollect
      obtain rfl : e' = e := Failure.generation.inj hcause
      rw [collectSources_eq_error hwalk]
      rfl
    · cases h
  · rcases bind_eq_error_iff.mp h with hself | ⟨sources, -, h⟩
    · cases hself
    · cases h

section Rootless

variable (hl : l.WellFormed) (hnamed : l.disk.Named) (hnone : o.root = none)
  (hup : .parent ∉ o.path.components) (hselect : l.select env o = .ok x)
include hl hnamed hnone hup hselect

/-- Under a root that is found, all that is selected has a test. -/
theorem testPath_of_select :
    ∀ source ∈ x.sources, ∃ d, Location.testPath ⟨x.root, source⟩ x.settings.paths = .ok d := by
  obtain ⟨hroot, -, hsources⟩ := select_eq_ok_iff.mp hselect
  have hpath := Path.parent_not_mem_absolute (parent_not_mem_currentDirectory hl hnamed) hup
  rw [hnone] at hroot
  obtain ⟨s, -, hfind⟩ := bind_eq_ok_iff.mp hroot
  rw [mapError_eq_ok_iff] at hfind
  have hrelative : ∀ source ∈ x.sources,
      ∃ relative, Location.relative ⟨x.root, source⟩ = .ok relative := by
    split at hsources
    · exact fun source hsource =>
        relative_of_mem_collectSources hl hnamed hpath hfind hsources hsource
    · rename_i hfile
      rw [hsources]
      intro source hsource
      rw [List.mem_singleton.mp hsource]
      exact relative_of_findRoot hpath hfind (eq_false_of_ne_true hfile)
  intro source hsource
  obtain ⟨relative, hrelative⟩ := hrelative source hsource
  exact ⟨_, Location.testPath_of_relative x.settings.paths hrelative⟩

theorem isMisplaced_of_turn {overwrite : Bool} {t : Turn}
    (ht : t ∈ turns x.settings l (x.requests overwrite)) (h : t.result = .error e) :
    e.isMisplaced = false := by
  apply isMisplaced_of_mem_turns _ ht h
  intro r hr
  obtain ⟨source, hsource, rfl⟩ := List.mem_map.mp hr
  obtain ⟨d, hd⟩ := testPath_of_select hl hnamed hnone hup hselect source hsource
  exact ⟨d, (Request.destination_eq_ok_iff (isAbsolute_root_of_select hselect)).mpr hd⟩

end Rootless

/-- A command without a root does not fail for a misplaced source. -/
theorem isMisplaced_of_createTests (hl : l.WellFormed) (hnamed : l.disk.Named)
    (hnone : o.root = none) (hup : .parent ∉ o.path.components)
    (h : (l.createTests env o).failure = some (.generation e)) : e.isMisplaced = false := by
  unfold createTests at h
  cases hselect : l.select env o with
  | error failure =>
    rw [hselect] at h
    obtain rfl : failure = .generation e := Option.some.inj h
    exact isMisplaced_of_select hselect
  | ok x =>
    rw [hselect] at h
    dsimp only at h
    split at h
    · cases h
    split at h
    · have hdone := preview_of_testPath (l := l)
        (testPath_of_select hl hnamed hnone hup hselect)
      dsimp only at h
      rw [hdone] at h
      cases h
    · rw [failure_createSelected] at h
      dsimp only at h
      split at h <;> cases h

end LocalFiles

/-- The root that is found is the nearest, and it serves. The candidates for a path are the
beginnings of its components, itself only when it is a directory; the root is the nearest of them in
which a marker exists, and there is none exactly when none exists in any of them. With this root a
path without steps up that is no directory has its path in the workspace, and if it is a directory,
so has every source collected below it, and a test. Therefore no command that is given no root fails
for a source outside of the workspace or for one that is no file, neither itself nor in one of its
tests. -/
theorem nearest_root_serves (l : LocalFiles) (hl : l.WellFormed) (hnamed : l.disk.Named) :
    (∀ (markers : List Text) (p : Path),
      (∀ above, (∃ d ∈ l.candidates p, d.components = above) ↔
        above <+: p.components ∧ (above = p.components → l.isDirectory p = true) ∧
          (p.isAbsolute = true → above ≠ [])) ∧
      (∀ root, l.findRoot markers p = .ok root ↔ l.IsNearestRoot markers p root) ∧
      (∀ e, l.findRoot markers p = .error e ↔
        e = .noWorkspace p ∧
          ∀ d ∈ l.candidates p, ∀ marker ∈ markers, l.holds (d.child marker) = false) ∧
      (.parent ∉ p.components → ∀ root, l.findRoot markers p = .ok root →
        (l.isDirectory p = false → ∃ relative, Location.relative ⟨root, p⟩ = .ok relative) ∧
        (l.isDirectory p = true → ∀ s, ∃ sources, l.collectSources s root p = .ok sources ∧
          ∀ source ∈ sources, ∃ relative test,
            Location.relative ⟨root, source⟩ = .ok relative ∧
              Location.testPath ⟨root, source⟩ s.paths = .ok test))) ∧
    ∀ env arguments o, Command.read arguments = .ok (.createTests o) → o.root = none →
      .parent ∉ o.path.components →
        (∀ e, (l.run env arguments).failure = some (.generation e) → e.isMisplaced = false) ∧
        ∀ x, l.select env o = .ok x →
          ∀ t ∈ turns x.settings l (x.requests (o.flags.contains .force)), ∀ e,
            t.result = .error e → e.isMisplaced = false := by
  refine ⟨?_, ?_⟩
  · intro markers p
    refine ⟨fun above => LocalFiles.exists_mem_candidates_iff,
      fun root => LocalFiles.findRoot_eq_ok_iff, fun e => LocalFiles.findRoot_eq_error_iff, ?_⟩
    intro hup root hroot
    refine ⟨LocalFiles.relative_of_findRoot hup hroot, ?_⟩
    intro hdirectory s
    obtain ⟨sources, hcollect⟩ := LocalFiles.exists_collectSources hdirectory s root
    refine ⟨sources, hcollect, ?_⟩
    intro source hsource
    obtain ⟨relative, hrelative⟩ :=
      LocalFiles.relative_of_mem_collectSources hl hnamed hup hroot hcollect hsource
    exact ⟨relative, _, hrelative, Location.testPath_of_relative s.paths hrelative⟩
  · intro env arguments o hread hnone hup
    refine ⟨?_, ?_⟩
    · intro e he
      rw [LocalFiles.run_of_read hread] at he
      exact LocalFiles.isMisplaced_of_createTests hl hnamed hnone hup he
    · intro x hselect t ht e he
      exact LocalFiles.isMisplaced_of_turn hl hnamed hnone hup hselect ht he

/-- A marked directory inside a marked one, which is the current directory. -/
def nestedWorkspace : LocalFiles where
  disk := ⟨[
    (["p".toList], .directory),
    (["p".toList, "package.json".toList], .file (.text "\x7b\x7d".toList)),
    (["p".toList, "web".toList], .directory),
    (["p".toList, "web".toList, "package.json".toList], .file (.text "\x7b\x7d".toList)),
    (["p".toList, "web".toList, "src".toList], .directory),
    (["p".toList, "web".toList, "src".toList, "Card.tsx".toList],
      .file (.text "export default function Card() \x7b\x7d\n".toList))]⟩
  cwd := ["p".toList, "web".toList]

/-- From a relative path the search ends at the empty path, which is the current directory and the
root here; the command finds the same directory under its absolute path. -/
theorem nearest_root_serves_nestedWorkspace :
    let markers := ["package.json".toList]
    let card : Path := ⟨"src/Card.tsx".toList⟩
    let src : Path := ⟨"src".toList⟩
    let arguments := ["create-test-file".toList, card.text]
    let o : TestOptions := { path := card }
    let x : Selection := ⟨⟨"/p/web".toList⟩, {}, [⟨"/p/web/src/Card.tsx".toList⟩]⟩
    nestedWorkspace.WellFormed ∧ nestedWorkspace.disk.Named ∧
      .parent ∉ card.components ∧ .parent ∉ src.components ∧
      nestedWorkspace.isDirectory card = false ∧ nestedWorkspace.isDirectory src = true ∧
      nestedWorkspace.IsNearestRoot markers card ⟨[]⟩ ∧
      (∃ relative, Location.relative ⟨⟨[]⟩, card⟩ = .ok relative) ∧
      (∃ sources, nestedWorkspace.collectSources {} ⟨[]⟩ src = .ok sources ∧
        ∀ source ∈ sources, ∃ test, Location.testPath ⟨⟨[]⟩, source⟩ {} = .ok test) ∧
      Command.read arguments = .ok (.createTests o) ∧
      nestedWorkspace.select plainly o = .ok x ∧
      (∀ e, (nestedWorkspace.run plainly arguments).failure = some (.generation e) →
        e.isMisplaced = false) ∧
      ∀ t ∈ turns x.settings nestedWorkspace (x.requests false), ∀ e, t.result = .error e →
        e.isMisplaced = false := by
  intro markers card src arguments o x
  have hwell : nestedWorkspace.WellFormed :=
    ⟨Disk.isTree_of_entries (by decide) (by decide), rfl⟩
  have hnamed : nestedWorkspace.disk.Named := by decide +kernel
  have hcard : .parent ∉ card.components := by decide
  have hsrc : .parent ∉ src.components := by decide
  have hfile : nestedWorkspace.isDirectory card = false := by decide +kernel
  have hdirectory : nestedWorkspace.isDirectory src = true := by decide +kernel
  have hcardRoot : nestedWorkspace.findRoot markers card = .ok ⟨[]⟩ := by decide +kernel
  have hsrcRoot : nestedWorkspace.findRoot markers src = .ok ⟨[]⟩ := by decide +kernel
  have hread : Command.read arguments = .ok (.createTests o) := by decide +kernel
  have hselect : nestedWorkspace.select plainly o = .ok x := by decide +kernel
  obtain ⟨hfind, hrun⟩ := nearest_root_serves nestedWorkspace hwell hnamed
  obtain ⟨-, hnearest, -, hcardServed⟩ := hfind markers card
  obtain ⟨-, -, -, hsrcServed⟩ := hfind markers src
  obtain ⟨hfailure, hturns⟩ := hrun plainly arguments o hread rfl hcard
  obtain ⟨sources, hcollect, htests⟩ := (hsrcServed hsrc _ hsrcRoot).2 hdirectory {}
  refine ⟨hwell, hnamed, hcard, hsrc, hfile, hdirectory, (hnearest _).mp hcardRoot,
    (hcardServed hcard _ hcardRoot).1 hfile, ⟨sources, hcollect, ?_⟩, hread, hselect, hfailure,
    hturns x hselect⟩
  intro source hsource
  obtain ⟨relative, test, -, htest⟩ := htests source hsource
  exact ⟨test, htest⟩

end TestScaffold
