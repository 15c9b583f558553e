import TestScaffold.Proofs.Disk.Directories
import TestScaffold.Proofs.Generation.Containment
import TestScaffold.Proofs.Path.Above
import TestScaffold.Proofs.Workspace.Sources

/-!
The root that is found for a path. It is the nearest marked directory among the path, when that is
a directory, and the paths above it. Such a root is a beginning of the path, so nothing that is
generated for the path lies outside of it: neither the path itself nor a source collected below it.
-/

namespace TestScaffold

theorem Path.components_foldl_child (p : Path) {names : List Text}
    (hnames : ∀ x ∈ names, Disk.IsName x ∧ '/' ∉ x) :
    (names.foldl child p).components = p.components ++ names.map .name := by
  induction names generalizing p with
  | nil => exact (List.append_nil _).symm
  | cons name names ih =>
    obtain ⟨⟨hname, hslash⟩, hothers⟩ := List.forall_mem_cons.mp hnames
    rw [List.foldl_cons, ih _ hothers, components_child p hname hslash, List.append_assoc]
    rfl

/-- Among paths of which each begins with those after it, the first with a property is the one that
begins with all others that have it. -/
theorem Path.find?_eq_some_iff_of_pairwise {paths : List Path} {P : Path → Bool} {found : Path}
    (h : paths.Pairwise fun a b => b.components <+: a.components ∧ b.components ≠ a.components) :
    paths.find? P = some found ↔
      found ∈ paths ∧ P found = true ∧
        ∀ q ∈ paths, P q = true → q.components <+: found.components := by
  induction paths with
  | nil => simp
  | cons p paths ih =>
    obtain ⟨hfirst, hothers⟩ := List.pairwise_cons.mp h
    cases hp : P p with
    | true =>
      rw [List.find?_cons_of_pos hp, Option.some.injEq]
      constructor
      · rintro rfl
        refine ⟨List.mem_cons_self, hp, List.forall_mem_cons.mpr ⟨fun _ => List.prefix_refl _, ?_⟩⟩
        exact fun q hq _ => (hfirst q hq).1
      · rintro ⟨hmem, -, hnearest⟩
        rcases List.mem_cons.mp hmem with rfl | hlater
        · rfl
        · -- A later path would have to begin with the first.
          obtain ⟨hbegins, hne⟩ := hfirst found hlater
          have hback := hnearest p List.mem_cons_self hp
          exact absurd (hbegins.eq_of_length_le hback.length_le) hne
    | false =>
      rw [List.find?_cons_of_neg (ne_true_of_eq_false hp), ih hothers]
      constructor
      · rintro ⟨hmem, hfound, hnearest⟩
        refine ⟨List.mem_cons_of_mem p hmem, hfound, List.forall_mem_cons.mpr ⟨?_, hnearest⟩⟩
        exact fun hp' => absurd hp' (ne_true_of_eq_false hp)
      · rintro ⟨hmem, hfound, hnearest⟩
        refine ⟨?_, hfound, fun q hq => hnearest q (List.mem_cons_of_mem p hq)⟩
        rcases List.mem_cons.mp hmem with rfl | hlater
        · exact absurd hfound (ne_true_of_eq_false hp)
        · exact hlater

/-- A path with steps, but none up, ends in a name. -/
theorem Path.exists_getLast?_name {p : Path} (hup : .parent ∉ p.components)
    (hsteps : p.steps ≠ []) : ∃ name, p.components.getLast? = some (.name name) := by
  obtain ⟨init, step, hstep⟩ := (List.eq_nil_or_concat p.steps).resolve_left hsteps
  have hcomponents := components_eq_append_steps p
  rw [hstep, List.concat_eq_append, List.map_append, List.map_singleton,
    ← List.append_assoc] at hcomponents
  have hname : stepComponent step = .name step := by
    unfold stepComponent
    split
    · rename_i hdots
      rw [hcomponents, hdots] at hup
      exact absurd (List.mem_append_right _ (List.mem_singleton_self _)) hup
    · rfl
  refine ⟨step, ?_⟩
  rw [hcomponents, hname, List.getLast?_concat]

namespace Location

variable {l : Location} {rest : List Path.Component} {file : Text}

/-- A source has a path in its workspace and a test when names follow the root in it, the last one
of which is that of the source. -/
theorem exists_relative (hrest : l.source.components = l.root.components ++ rest)
    (hup : .parent ∉ rest) (hfile : rest.getLast? = some (.name file)) :
    ∃ relative, l.relative = .ok relative := by
  obtain ⟨relative, hunder, rfl⟩ := Path.exists_under? hrest
  have hname : relative.fileName? = some file := by
    unfold Path.fileName?
    rw [hfile]
    rfl
  refine ⟨relative, ?_⟩
  unfold Location.relative
  rw [hunder]
  dsimp only
  rw [if_neg hup, hname, Option.isNone_some, if_neg Bool.false_ne_true]

end Location

namespace LocalFiles

/-- The directories that can be the root for a path: the path itself if it is a directory, and the
paths above it. The nearest comes first. -/
def candidates (l : LocalFiles) (p : Path) : List Path :=
  if l.isDirectory p then p.ancestors else p.parents

/-- A candidate in which one of the markers exists, with no other such candidate nearer. -/
structure IsNearestRoot (l : LocalFiles) (markers : List Text) (p root : Path) : Prop where
  candidate : root ∈ l.candidates p
  marked : ∃ marker ∈ markers, l.holds (root.child marker) = true
  nearest : ∀ d ∈ l.candidates p, (∃ marker ∈ markers, l.holds (d.child marker) = true) →
    d.components <+: root.components

variable {l : LocalFiles} {markers : List Text} {p root directory : Path} {s : Settings}
  {sources : List Path}

theorem isMarked_iff {d : Path} :
    l.isMarked markers d = true ↔ ∃ marker ∈ markers, l.holds (d.child marker) = true :=
  List.any_eq_true

/-- The candidates are the beginnings of the path, the path itself only if it is a directory; for
an absolute path the empty path is none. -/
theorem exists_mem_candidates_iff {above : List Path.Component} :
    (∃ d ∈ l.candidates p, d.components = above) ↔
      above <+: p.components ∧ (above = p.components → l.isDirectory p = true) ∧
        (p.isAbsolute = true → above ≠ []) := by
  have hself : p.isAbsolute = true → p.components ≠ [] := by
    intro hp
    rw [Path.components_of_absolute hp]
    exact List.cons_ne_nil _ _
  unfold candidates
  cases hdirectory : l.isDirectory p with
  | true =>
    rw [if_pos rfl]
    unfold Path.ancestors
    rw [List.exists_mem_cons_iff, Path.exists_mem_parents_iff]
    constructor
    · rintro (rfl | ⟨hbegins, -, hroot⟩)
      · exact ⟨List.prefix_refl _, fun _ => rfl, hself⟩
      · exact ⟨hbegins, fun _ => rfl, hroot⟩
    · rintro ⟨hbegins, -, hroot⟩
      by_cases hsame : above = p.components
      · exact Or.inl hsame.symm
      · exact Or.inr ⟨hbegins, hsame, hroot⟩
  | false =>
    rw [if_neg Bool.false_ne_true, Path.exists_mem_parents_iff]
    simp only [Bool.false_eq_true, imp_false, ne_eq]

theorem pairwise_candidates (l : LocalFiles) (p : Path) :
    (l.candidates p).Pairwise fun a b =>
      b.components <+: a.components ∧ b.components ≠ a.components := by
  unfold candidates
  split
  · refine List.pairwise_cons.mpr ⟨?_, p.pairwise_parents⟩
    intro q hq
    obtain ⟨hbegins, hne, -⟩ := Path.exists_mem_parents_iff.mp ⟨q, hq, rfl⟩
    exact ⟨hbegins, hne⟩
  · exact p.pairwise_parents

theorem findRoot_eq (l : LocalFiles) (markers : List Text) (p : Path) :
    l.findRoot markers p =
      ((l.candidates p).find? (l.isMarked markers)).elim (.error (.noWorkspace p)) .ok := by
  have hcandidates : (if l.isDirectory p then p.ancestors else p.parents) = l.candidates p := rfl
  unfold findRoot
  dsimp only
  rw [hcandidates]
  cases (l.candidates p).find? (l.isMarked markers) <;> rfl

theorem findRoot_eq_ok_iff : l.findRoot markers p = .ok root ↔ l.IsNearestRoot markers p root := by
  have hfind : l.findRoot markers p = .ok root ↔
      (l.candidates p).find? (l.isMarked markers) = some root := by
    rw [findRoot_eq]
    cases (l.candidates p).find? (l.isMarked markers) <;> simp
  rw [hfind, Path.find?_eq_some_iff_of_pairwise (l.pairwise_candidates p)]
  simp only [isMarked_iff]
  exact ⟨fun ⟨hmem, hmarked, hnearest⟩ => ⟨hmem, hmarked, hnearest⟩,
    fun h => ⟨h.candidate, h.marked, h.nearest⟩⟩

/-- No root is found just when no candidate is marked. -/
theorem findRoot_eq_error_iff {e : GenerationError} :
    l.findRoot markers p = .error e ↔
      e = .noWorkspace p ∧
        ∀ d ∈ l.candidates p, ∀ marker ∈ markers, l.holds (d.child marker) = false := by
  have hnone : (l.candidates p).find? (l.isMarked markers) = none ↔
      ∀ d ∈ l.candidates p, ∀ marker ∈ markers, l.holds (d.child marker) = false := by
    rw [List.find?_eq_none]
    simp only [isMarked_iff, not_exists, not_and, Bool.not_eq_true]
  rw [← hnone, findRoot_eq]
  cases (l.candidates p).find? (l.isMarked markers) with
  | none => simp [eq_comm]
  | some found => simp

/-- A path whose segments are all null is a directory: the root or the current one. -/
theorem isDirectory_of_null (hne : p.text ≠ []) (hnull : p.steps = []) :
    l.isDirectory p = true := by
  have hfollow : l.disk.follow (l.start p) .directory p.segments =
      .ok (l.start p, .directory) := by
    apply Disk.follow_of_filter
    rw [show p.segments.filter (!Path.isNullSegment ·) = [] from hnull]
    rfl
  have hfind : l.find p = .ok (l.start p, .directory) := by
    unfold find
    rw [if_neg hne]
    exact hfollow
  exact isDirectory_of_find hfind

theorem prefix_of_findRoot (h : l.findRoot markers p = .ok root) :
    root.components <+: p.components ∧
      (root.components = p.components → l.isDirectory p = true) := by
  have hmem := (findRoot_eq_ok_iff.mp h).candidate
  obtain ⟨hbegins, hself, -⟩ := exists_mem_candidates_iff.mp ⟨root, hmem, rfl⟩
  exact ⟨hbegins, hself⟩

/-- A path that is no directory ends in a name behind the root that is found for it. -/
theorem relative_of_findRoot (hup : .parent ∉ p.components)
    (h : l.findRoot markers p = .ok root) (hfile : l.isDirectory p = false) :
    ∃ relative, Location.relative ⟨root, p⟩ = .ok relative := by
  obtain ⟨⟨rest, hrest⟩, hself⟩ := prefix_of_findRoot h
  have hne : rest ≠ [] := by
    rintro rfl
    rw [List.append_nil] at hrest
    rw [hself hrest] at hfile
    cases hfile
  have hempty : p.text ≠ [] := by
    intro hempty
    rw [Path.components_eq_nil_iff.mpr hempty] at hrest
    exact hne (List.append_eq_nil_iff.mp hrest).2
  -- The dot alone is a directory, so the path has a step.
  have hsteps : p.steps ≠ [] := by
    intro hnull
    rw [isDirectory_of_null hempty hnull] at hfile
    cases hfile
  obtain ⟨name, hlast⟩ := Path.exists_getLast?_name hup hsteps
  rw [← hrest, List.getLast?_append_of_ne_nil _ hne] at hlast
  apply Location.exists_relative hrest.symm _ hlast
  intro hmem
  rw [← hrest] at hup
  exact hup (List.mem_append_right _ hmem)

/-- A source that is collected below a path lies under the root that is found for the path. -/
theorem relative_of_mem_collectSources (hl : l.WellFormed) (hnamed : l.disk.Named)
    (hup : .parent ∉ p.components) (h : l.findRoot markers p = .ok root)
    (hcollect : l.collectSources s root p = .ok sources) {source : Path}
    (hsource : source ∈ sources) :
    ∃ relative, Location.relative ⟨root, source⟩ = .ok relative := by
  obtain ⟨⟨rest, hrest⟩, -⟩ := prefix_of_findRoot h
  obtain ⟨-, top, names, content, -, hne, hnames, -, rfl⟩ :=
    exists_names_of_mem_collectSources hl hnamed hcollect hsource
  have hcomponents := Path.components_foldl_child p hnames
  rw [← hrest, List.append_assoc] at hcomponents
  obtain ⟨init, name, rfl⟩ : ∃ init name, names = init ++ [name] :=
    ⟨names.dropLast, names.getLast hne, (List.dropLast_append_getLast hne).symm⟩
  have hlast : (rest ++ (init ++ [name]).map Path.Component.name).getLast? = some (.name name) := by
    rw [List.map_append, ← List.append_assoc]
    exact List.getLast?_concat
  apply Location.exists_relative hcomponents _ hlast
  intro hmem
  rw [← hrest] at hup
  rcases List.mem_append.mp hmem with hbetween | hbelow
  · exact hup (List.mem_append_right _ hbetween)
  · obtain ⟨x, -, hx⟩ := List.mem_map.mp hbelow
    cases hx

theorem exists_find_of_isDirectory (hdirectory : l.isDirectory p = true) :
    ∃ top, l.find p = .ok (top, .directory) := by
  unfold isDirectory at hdirectory
  rcases hfound : l.find p with e | ⟨top, _ | content⟩
  · rw [hfound] at hdirectory
    cases hdirectory
  · exact ⟨top, rfl⟩
  · rw [hfound] at hdirectory
    cases hdirectory

theorem exists_collectSources (hdirectory : l.isDirectory p = true) (s : Settings) (root : Path) :
    ∃ sources, l.collectSources s root p = .ok sources := by
  obtain ⟨top, hfind⟩ := exists_find_of_isDirectory hdirectory
  exact ⟨_, collectSources_eq_ok_iff.mpr ⟨top, hfind, rfl⟩⟩

end LocalFiles

end TestScaffold
