import TestScaffold.Proofs.Disk.Writing
import TestScaffold.Proofs.Path.Steps

/-!
A disk after tests have been written to it. Directories are never lost, so a path that points to a
place points to it from then on, and what is written there stays until something else is written
at the same place. Where two paths part in names alone, they point to two places.
-/

namespace TestScaffold

namespace Disk

def KeepsDirectories (before after : Disk) : Prop :=
  ∀ place, before.get? place = some .directory → after.get? place = some .directory

/-- One step on the way to a directory: it stays where it is, goes up, or goes into a directory
that is there. -/
theorem follow_cons_eq_directory_iff {d : Disk} {place q : Place} {segment : Text}
    {segments : List Text} :
    d.follow place .directory (segment :: segments) = .ok (q, .directory) ↔
      Path.isNullSegment segment = true ∧
          d.follow place .directory segments = .ok (q, .directory) ∨
      segment = ['.', '.'] ∧ d.follow place.dropLast .directory segments = .ok (q, .directory) ∨
      IsName segment ∧ d.get? (place ++ [segment]) = some .directory ∧
          d.follow (place ++ [segment]) .directory segments = .ok (q, .directory) := by
  have hdots : Path.isNullSegment ['.', '.'] = false := rfl
  cases hsegment : Path.isNullSegment segment with
  | true =>
    have hnull := Path.isNullSegment_iff.mp hsegment
    have hup : segment ≠ ['.', '.'] := by
      rintro rfl
      cases hsegment.symm.trans hdots
    have hname : ¬ IsName segment := fun h => hnull.elim h.1 h.2.1
    rw [follow_null d place segments hnull]
    simp only [hup, hname, true_and, false_and, or_false]
  | false =>
    obtain ⟨hempty, hdot⟩ := Path.isNullSegment_eq_false_iff.mp hsegment
    by_cases hup : segment = ['.', '.']
    · subst hup
      have hname : ¬ IsName ['.', '.'] := fun h => h.2.2 rfl
      rw [follow_up]
      simp only [hname, true_and, false_and, or_false, Bool.false_eq_true, false_or]
    · have hname : IsName segment := ⟨hempty, hdot, hup⟩
      rw [follow_name d place segments hname]
      simp only [hup, hname, true_and, false_and, false_or, Bool.false_eq_true]
      cases d.get? (place ++ [segment]) with
      | none => simp
      | some entry =>
        cases entry with
        | directory => simp
        | file content =>
          -- Nothing leads from a file to a directory.
          cases segments <;> simp [follow]

/-- The way to a directory leads there as long as no directory is lost. -/
theorem KeepsDirectories.follow {before after : Disk} (h : before.KeepsDirectories after)
    {place q : Place} {segments : List Text}
    (hfollow : before.follow place .directory segments = .ok (q, .directory)) :
    after.follow place .directory segments = .ok (q, .directory) := by
  induction segments generalizing place with
  | nil => exact hfollow
  | cons segment segments ih =>
    apply follow_cons_eq_directory_iff.mpr
    rcases follow_cons_eq_directory_iff.mp hfollow with
      ⟨hnull, hrest⟩ | ⟨hup, hrest⟩ | ⟨hname, hthere, hrest⟩
    · exact Or.inl ⟨hnull, ih hrest⟩
    · exact Or.inr (Or.inl ⟨hup, ih hrest⟩)
    · exact Or.inr (Or.inr ⟨hname, h _ hthere, ih hrest⟩)

/-- Segments that are no components may be left out on the way to a directory. -/
theorem follow_filter {d : Disk} {place q : Place} {segments : List Text}
    (hfollow : d.follow place .directory segments = .ok (q, .directory)) :
    d.follow place .directory (segments.filter (!Path.isNullSegment ·)) = .ok (q, .directory) := by
  induction segments generalizing place with
  | nil => exact hfollow
  | cons segment segments ih =>
    rcases follow_cons_eq_directory_iff.mp hfollow with
      ⟨hnull, hrest⟩ | ⟨rfl, hrest⟩ | ⟨hname, hthere, hrest⟩
    · rw [List.filter_cons_of_neg (by simp [hnull])]
      exact ih hrest
    · rw [List.filter_cons_of_pos rfl]
      exact follow_cons_eq_directory_iff.mpr (Or.inr (Or.inl ⟨rfl, ih hrest⟩))
    · have hstep : Path.isNullSegment segment = false :=
        Path.isNullSegment_eq_false_iff.mpr ⟨hname.1, hname.2.1⟩
      rw [List.filter_cons_of_pos (by simp [hstep])]
      exact follow_cons_eq_directory_iff.mpr (Or.inr (Or.inr ⟨hname, hthere, ih hrest⟩))

/-- Without `..`, the segments that are components are names. -/
theorem isName_of_mem_filter {segments : List Text} (hup : ['.', '.'] ∉ segments) :
    ∀ x ∈ segments.filter (!Path.isNullSegment ·), IsName x := by
  intro x hx
  obtain ⟨hsegment, hstep⟩ := List.mem_filter.mp hx
  have hnull : Path.isNullSegment x = false := by simpa using hstep
  obtain ⟨hempty, hdot⟩ := Path.isNullSegment_eq_false_iff.mp hnull
  refine ⟨hempty, hdot, ?_⟩
  rintro rfl
  exact hup hsegment

/-- Names lead to the place that they name. -/
theorem place_of_follow_names {d : Disk} {place q : Place} {entry e : Entry} {names : List Text}
    (hnames : ∀ x ∈ names, IsName x) (hfollow : d.follow place entry names = .ok (q, e)) :
    q = place ++ names := by
  induction names generalizing place entry with
  | nil =>
    obtain ⟨rfl, -⟩ := Prod.mk.inj (Except.ok.inj hfollow)
    rw [List.append_nil]
  | cons name names ih =>
    cases entry with
    | file content => cases hfollow
    | directory =>
      rw [follow_name d place names (hnames name List.mem_cons_self)] at hfollow
      split at hfollow
      · cases hfollow
      · have hplace := ih (fun x hx => hnames x (List.mem_cons_of_mem name hx)) hfollow
        rw [hplace, List.append_assoc, List.singleton_append]

end Disk

namespace LocalFiles

/-- `l'` are the files of `l` at a later time: no directory has been lost. -/
structure Later (l l' : LocalFiles) : Prop where
  directories : l.disk.KeepsDirectories l'.disk
  cwd : l'.cwd = l.cwd

theorem Later.refl (l : LocalFiles) : l.Later l :=
  ⟨fun _ h => h, rfl⟩

theorem Later.trans {a b c : LocalFiles} (hab : a.Later b) (hbc : b.Later c) : a.Later c :=
  ⟨fun place h => hbc.directories place (hab.directories place h), hbc.cwd.trans hab.cwd⟩

variable {l l' : LocalFiles} {p q : Path} {place other : Place} {text : Text}

theorem Extends.later (h : l.Extends l') : l.Later l' := by
  refine ⟨?_, h.cwd⟩
  intro place hplace
  rw [h.grown.get?_of_ne_none, hplace]
  rw [hplace]
  exact Option.some_ne_none _

theorem later_put (hplace : l.disk.get? place ≠ some .directory) (content : Content) :
    l.Later { l with disk := l.disk.put place (.file content) } := by
  refine ⟨?_, rfl⟩
  intro other hother
  have hne : other ≠ place := by
    rintro rfl
    exact hplace hother
  rw [Disk.get?_put_of_ne _ _ hne, hother]

theorem PointsTo.later (h : l.PointsTo p place) (hlater : l.Later l') : l'.PointsTo p place := by
  obtain ⟨init, name, directory, hsegments, hname, hfollow, hplace⟩ := h
  have hstart : l'.start p = l.start p := by
    unfold start
    rw [hlater.cwd]
  refine ⟨init, name, directory, hsegments, hname, ?_, hplace⟩
  rw [hstart]
  exact hlater.directories.follow hfollow

/-- What is read under a path is the text of the file that it points to. -/
theorem PointsTo.read_eq (h : l.PointsTo p place)
    (hfile : l.disk.get? place = some (.file (.text text))) : l.read p = .ok text := by
  have hfind := h.find
  rw [hfile] at hfind
  unfold read content
  rw [hfind]
  rfl

/-- A path that begins with the steps `top` and goes on in names points to the place that these
name, from where `top` leads. -/
theorem PointsTo.place_eq (h : l.PointsTo p place) (habsolute : p.isAbsolute = true)
    {top names : List Text} (hsteps : p.steps = top ++ names) (hne : names ≠ [])
    (hnames : ∀ x ∈ names, Disk.IsName x) :
    ∃ start, l.disk.follow [] .directory top = .ok (start, .directory) ∧
      place = start ++ names := by
  obtain ⟨init, name, directory, hsegments, hname, hfollow, rfl⟩ := h
  obtain ⟨below, last, rfl⟩ : ∃ below last, names = below ++ [last] :=
    ⟨names.dropLast, names.getLast hne, (List.dropLast_append_getLast hne).symm⟩
  have hstart : l.start p = [] := by
    unfold start
    rw [if_pos habsolute]
  -- The steps before the last are those of the directory.
  have hlast : p.steps = init.filter (!Path.isNullSegment ·) ++ [name] := by
    have hstep : Path.isNullSegment name = false :=
      Path.isNullSegment_eq_false_iff.mpr ⟨hname.1, hname.2.1⟩
    rw [Path.steps_of_segments hsegments, Path.filter_isNullSegment_concat init hstep]
  rw [hsteps, ← List.append_assoc] at hlast
  obtain ⟨hinit, hlast⟩ := List.append_inj' hlast rfl
  obtain rfl := (List.cons.inj hlast).1
  have hdirectory := Disk.follow_filter hfollow
  rw [hstart, ← hinit, Disk.follow_append] at hdirectory
  rcases htop : l.disk.follow [] .directory top with e | ⟨start, entry⟩
  · rw [htop] at hdirectory
    cases hdirectory
  · rw [htop] at hdirectory
    change l.disk.follow start entry below = .ok (directory, .directory) at hdirectory
    have hplace := Disk.place_of_follow_names
      (fun x hx => hnames x (List.mem_append_left _ hx)) hdirectory
    cases entry with
    | directory =>
      refine ⟨start, rfl, ?_⟩
      rw [hplace, List.append_assoc]
    | file content =>
      cases below with
      | nil => cases hdirectory
      | cons x below => cases hdirectory

/-- Two paths that part in names alone point to one place only if they have the same steps. -/
theorem PointsTo.eq_iff (hp : l.PointsTo p place) (hq : l.PointsTo q other)
    (hpa : p.isAbsolute = true) (hqa : q.isAbsolute = true) {top xs ys : List Text}
    (hpsteps : p.steps = top ++ xs) (hqsteps : q.steps = top ++ ys) (hxs : xs ≠ []) (hys : ys ≠ [])
    (hxnames : ∀ x ∈ xs, Disk.IsName x) (hynames : ∀ y ∈ ys, Disk.IsName y) :
    place = other ↔ p.components = q.components := by
  obtain ⟨start, hstart, rfl⟩ := hp.place_eq hpa hpsteps hxs hxnames
  obtain ⟨start', hstart', rfl⟩ := hq.place_eq hqa hqsteps hys hynames
  rw [hstart] at hstart'
  obtain rfl := (Prod.mk.inj (Except.ok.inj hstart')).1
  rw [Path.components_eq_iff hpa hqa, hpsteps, hqsteps, List.append_right_inj,
    List.append_right_inj]

/-- What a write that succeeds leaves: its text at the place that its path points to, and all else
as it was. -/
theorem write_eq_ok (h : l.write p text = (l', .ok ())) :
    l.Later l' ∧ ∃ place, l'.PointsTo p place ∧
      l'.disk.get? place = some (.file (.text text)) ∧
      ∀ other, other ≠ place → l.disk.get? other ≠ none →
        l'.disk.get? other = l.disk.get? other := by
  have hextends := extends_makeDirectories l p.parents
  unfold write at h
  rcases hmade : l.makeDirectories p.parents with ⟨made, e | _⟩
  · rw [hmade] at h
    cases (Prod.mk.inj h).2
  rw [hmade] at h hextends
  cases hwrite : made.writeFile p text with
  | error e =>
    simp only [hwrite] at h
    cases (Prod.mk.inj h).2
  | ok after =>
    simp only [hwrite] at h
    obtain rfl := (Prod.mk.inj h).1
    obtain ⟨place, hpoints, hdir, rfl⟩ := writeFile_eq_ok_iff.mp hwrite
    have hlater := later_put hdir (.text text)
    have hroot : place ≠ [] := by
      rintro rfl
      exact hdir (Disk.get?_root made.disk)
    refine ⟨hextends.later.trans hlater, place, hpoints.later hlater, ?_, ?_⟩
    · exact Disk.get?_put_self _ _ hroot
    · intro other hne hother
      rw [Disk.get?_put_of_ne _ _ hne, hextends.grown.get?_of_ne_none hother]

end LocalFiles

end TestScaffold
