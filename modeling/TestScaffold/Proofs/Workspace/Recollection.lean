import TestScaffold.Proofs.Generation.Tested

/-!
Sources that are collected again after tests have been added. Neither tests nor directories are
sources, so the same entries are looked at; and they are visited as before, unless a directory has
become the top of a repository, whose ignore files then count.
-/

namespace TestScaffold

namespace Disk

/-- Whether an entry is a file that is not named as a test. -/
def isLasting (x : Place × Entry) : Bool :=
  decide (x.2 ≠ .directory) && !isTestPlace x.1

theorem filter_isLasting_put {d : Disk} {place : Place} {entry : Entry}
    (hentry : isLasting (place, entry) = false)
    (hold : ∀ x ∈ d.entries, isLasting x = true → x.1 ≠ place) :
    (d.put place entry).entries.filter isLasting = d.entries.filter isLasting := by
  unfold put
  rw [List.filter_cons_of_neg (by simp [hentry]), List.filter_filter]
  apply List.filter_congr
  intro x hx
  cases hlasting : isLasting x with
  | false => rfl
  | true => simp [hold x hx hlasting]

theorem forall_ne_of_get?_eq_none {d : Disk} {place : Place} (h : d.get? place = none) :
    ∀ x ∈ d.entries, x.1 ≠ place := by
  unfold get? at h
  split at h
  · cases h
  · rintro x hx rfl
    have hne := List.lookup_eq_none_iff.mp h x hx
    simp at hne

end Disk

namespace LocalFiles

variable {l l' : LocalFiles} {s : Settings} {root directory p : Path} {top place : Place}
  {sources : List Path}

theorem Tested.filter_isLasting (h : l.Tested l') :
    l'.disk.entries.filter Disk.isLasting = l.disk.entries.filter Disk.isLasting := by
  induction h with
  | refl => rfl
  | directory _ place hnone ih =>
    rw [← ih]
    exact Disk.filter_isLasting_put rfl fun x hx _ => Disk.forall_ne_of_get?_eq_none hnone x hx
  | test _ place content htest _ ih =>
    rw [← ih]
    refine Disk.filter_isLasting_put (by simp [Disk.isLasting, htest]) ?_
    rintro x - hlasting rfl
    simp [Disk.isLasting, htest] at hlasting

theorem Later.find_directory (h : l.Later l') (hfind : l.find p = .ok (place, .directory)) :
    l'.find p = .ok (place, .directory) := by
  unfold find start at hfind ⊢
  rw [h.cwd]
  split at hfind
  · cases hfind
  · rename_i hne
    rw [if_neg hne]
    exact h.directories.follow hfind

/-- A walk through a directory visits those of the files of `l` again that it visited before. -/
def WalkKept (l l' : LocalFiles) (directory : Path) : Prop :=
  ∀ top, l.find directory = .ok (top, .directory) → ∀ place, l.disk.content? place ≠ none →
    l'.disk.visits top place = l.disk.visits top place

/-- The source that an entry is, if it is visited below `top` and is one. -/
def source? (d : Disk) (s : Settings) (root directory : Path) (top : Place) (x : Place × Entry) :
    Option Path :=
  let p := (x.1.drop top.length).foldl Path.child directory
  if x.2 ≠ .directory ∧ d.visits top x.1 = true ∧ isSource s root p = true then some p else none

theorem collectSources_of_find (hfind : l.find directory = .ok (top, .directory)) :
    l.collectSources s root directory =
      .ok ((l.disk.entries.filterMap (source? l.disk s root directory top)).mergeSort fun p q =>
        (Path.order p q).isLE) := by
  have hsources : ((l.disk.visitedFiles top).map fun place =>
      (place.drop top.length).foldl Path.child directory).filter (isSource s root) =
        l.disk.entries.filterMap (source? l.disk s root directory top) := by
    unfold Disk.visitedFiles
    rw [List.map_filterMap, List.filter_filterMap]
    congr 1
    funext ⟨place, entry⟩
    unfold source?
    cases entry with
    | directory => rfl
    | file content =>
      cases hvisits : l.disk.visits top place with
      | false => simp [hvisits]
      | true => simp [hvisits, Option.filter]
  exact collectSources_eq_ok_iff.mpr ⟨top, hfind, by rw [hsources]⟩

/-- Only entries that last are sources. -/
theorem source?_eq_none {d : Disk} {x : Place × Entry} (h : Disk.isLasting x = false) :
    source? d s root directory top x = none := by
  unfold source?
  apply if_neg
  rintro ⟨hfile, hvisits, hsource⟩
  obtain ⟨names, hne, hplace⟩ := below_of_visits hvisits
  obtain ⟨init, name, rfl⟩ : ∃ init name, names = init ++ [name] :=
    ⟨names.dropLast, names.getLast hne, (List.dropLast_append_getLast hne).symm⟩
  unfold Disk.isLasting Disk.isTestPlace at h
  rw [hplace, ← List.append_assoc, List.getLast?_concat] at h
  simp only [hfile, ne_eq, not_false_eq_true, decide_true, Bool.true_and, Bool.not_eq_false',
    Option.any_some, Bool.and_eq_true, decide_eq_true_eq] at h
  obtain ⟨htest, hname, hslash⟩ := h
  rw [hplace, List.drop_left,
    not_isSource_of_isTestName (fileName?_descend _ _ hname hslash) htest] at hsource
  cases hsource

theorem filterMap_source? (d : Disk) (s : Settings) (root directory : Path) (top : Place) :
    d.entries.filterMap (source? d s root directory top) =
      (d.entries.filter Disk.isLasting).filterMap (source? d s root directory top) := by
  rw [List.filterMap_filter]
  congr 1
  funext x
  cases h : Disk.isLasting x with
  | true => rfl
  | false => exact source?_eq_none h

/-- The sources that are collected stay the same when tests are added, as long as they are visited
as before. -/
theorem Tested.collectSources_eq (h : l.Tested l') (hl : l.WellFormed)
    (hwalk : l.WalkKept l' directory)
    (hcollect : l.collectSources s root directory = .ok sources) :
    l'.collectSources s root directory = .ok sources := by
  obtain ⟨top, hfind, -⟩ := collectSources_eq_ok_iff.mp hcollect
  rw [← hcollect, collectSources_of_find hfind,
    collectSources_of_find (h.later.find_directory hfind), filterMap_source?,
    filterMap_source? l.disk, h.filter_isLasting]
  congr 2
  apply List.filterMap_congr
  rintro ⟨place, entry⟩ hx
  obtain ⟨hentry, -⟩ := List.mem_filter.mp hx
  cases entry with
  | directory => rfl
  | file content =>
    have hthere : l.disk.content? place ≠ none := by
      unfold Disk.content?
      rw [hl.tree.get?_of_mem hentry]
      exact Option.some_ne_none _
    unfold source?
    rw [hwalk top hfind place hthere]

theorem Tested.judgeBy_eq (h : l.Tested l') (init : Place) {last : Text}
    (hlast : isTestName last = false) (directories : List Place) (place : Place)
    (isDirectory : Bool) :
    l'.disk.judgeBy (init ++ [last]) directories place isDirectory =
      l.disk.judgeBy (init ++ [last]) directories place isDirectory := by
  unfold Disk.judgeBy
  congr 1
  funext above
  have hcontent : l'.disk.content? (above ++ (init ++ [last])) =
      l.disk.content? (above ++ (init ++ [last])) := by
    apply h.content?_eq
    unfold Disk.isTestPlace
    rw [← List.append_assoc, List.getLast?_concat, Option.any_some, hlast, Bool.false_and]
  unfold Disk.rulesAt
  rw [hcontent]

theorem inRepository_congr {d d' : Disk}
    (h : ∀ directory, d'.isRepository directory = d.isRepository directory)
    (directories : List Place) : d'.inRepository directories = d.inRepository directories := by
  induction directories with
  | nil => rfl
  | cons directory others ih =>
    unfold Disk.inRepository
    rw [h directory, ih]

theorem isRepository_eq_false {d : Disk}
    (h : ∀ x ∈ d.entries, x.1.getLast? ≠ some ".git".toList) (directory : Place) :
    d.isRepository directory = false := by
  unfold Disk.isRepository Disk.get?
  rw [if_neg (by simp), Option.isSome_eq_false_iff, Option.isNone_iff_eq_none,
    List.lookup_eq_none_iff]
  intro x hx
  have hne : x.1 ≠ directory ++ [".git".toList] := by
    intro heq
    apply h x hx
    rw [heq, List.getLast?_concat]
  simpa using Ne.symm hne

/-- The walk is kept when no directory becomes the top of a repository, because no ignore file is
named as a test. -/
theorem Tested.walkKept (h : l.Tested l')
    (hrepository : ∀ d, l'.disk.isRepository d = l.disk.isRepository d) (directory : Path) :
    l.WalkKept l' directory := by
  have hjudge : ∀ place isDirectory,
      l'.disk.judge place isDirectory = l.disk.judge place isDirectory := by
    intro place isDirectory
    have hignore := h.judgeBy_eq [] (show isTestName ".ignore".toList = false by decide)
    have hgitignore := h.judgeBy_eq [] (show isTestName ".gitignore".toList = false by decide)
    have hexclude := h.judgeBy_eq [".git".toList, "info".toList]
      (show isTestName "exclude".toList = false by decide)
    simp only [List.nil_append, List.cons_append] at hignore hgitignore hexclude
    unfold Disk.judge
    simp only [inRepository_congr hrepository, hignore, hgitignore, hexclude]
  intro top _ place _
  unfold Disk.visits Disk.admits
  simp only [hjudge]

end LocalFiles

end TestScaffold
