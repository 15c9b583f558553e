import Mathlib.Data.List.DropRight
import TestScaffold.Disk.Local
import TestScaffold.Proofs.Disk.Tree
import TestScaffold.Proofs.Path.Segments

/-!
What a write does to a disk. Of what is there before it, a write that finds nothing under its path
alters nothing, with one exception: a path through `..` may lead to a file that is there once the
missing directories on its way are made. Such a path is called a detour.
-/

namespace TestScaffold

namespace LocalFiles

/-- The disk is a tree, and the current directory is one of its directories. -/
structure WellFormed (l : LocalFiles) : Prop where
  tree : l.disk.IsTree
  cwd : l.disk.get? l.cwd = some .directory

/-- A path points to a place when it leads to the directory of the place and ends in its name. -/
def PointsTo (l : LocalFiles) (p : Path) (place : Place) : Prop :=
  ∃ init name directory, p.segments = init ++ [name] ∧ Disk.IsName name ∧
    l.disk.follow (l.start p) .directory init = .ok (directory, .directory) ∧
    place = directory ++ [name]

variable {l l' : LocalFiles} {p : Path} {place : Place} {text : Text}

theorem WellFormed.get?_start (hl : l.WellFormed) (p : Path) :
    l.disk.get? (l.start p) = some .directory := by
  unfold start
  split
  · exact Disk.get?_root l.disk
  · exact hl.cwd

theorem exists_last_part (xs : List Text) :
    (∀ x ∈ xs, x = []) ∨
      ∃ init name trailing, xs = init ++ name :: trailing ∧ name ≠ [] ∧ ∀ x ∈ trailing, x = [] := by
  induction xs using List.reverseRecOn with
  | nil => exact Or.inl (by simp)
  | append_singleton xs x ih =>
    by_cases hx : x = []
    · rcases ih with hall | ⟨init, name, trailing, rfl, hname, hall⟩
      · exact Or.inl (by simpa [or_imp, forall_and, hx] using hall)
      · refine Or.inr ⟨init, name, trailing ++ [x], by simp, hname, ?_⟩
        simpa [or_imp, forall_and, hx] using hall
    · exact Or.inr ⟨xs, x, [], rfl, hx, by simp⟩

theorem site?_of_empty (hempty : ∀ x ∈ p.segments, x = []) :
    l.site? p = if p.text = [] then .error .notFound else .ok none := by
  have hnamed : ((Text.fields p.text '/').reverse.dropWhile (· = [])).reverse = [] := by
    rw [List.reverse_eq_nil_iff, List.dropWhile_eq_nil_iff]
    intro x hx
    simpa using hempty x (List.mem_reverse.mp hx)
  unfold site?
  dsimp only
  rw [hnamed]
  rfl

/-- A new entry goes into the directory that its path leads to, under the last name of it. Dots
at the end are no name to make an entry of. -/
theorem site?_of_name {init trailing : List Text} {name : Text}
    (hsplit : p.segments = init ++ name :: trailing) (hname : name ≠ [])
    (hempty : ∀ x ∈ trailing, x = []) :
    l.site? p =
      match l.disk.follow (l.start p) .directory init with
      | .error e => .error e
      | .ok (_, .file _) => .error .notADirectory
      | .ok (directory, .directory) =>
        if name = ['.'] ∨ name = ['.', '.'] then .ok none
        else .ok (some ⟨directory, name, decide (trailing ≠ [])⟩) := by
  have hfields : Text.fields p.text '/' = init ++ name :: trailing := hsplit
  have hnamed : ((Text.fields p.text '/').reverse.dropWhile (· = [])).reverse =
      init ++ [name] := by
    rw [hfields, List.reverse_append, List.reverse_cons, List.append_assoc,
      List.dropWhile_append_of_pos]
    · simp [hname]
    · intro x hx
      simpa using hempty x (List.mem_reverse.mp hx)
  have hslash : decide ((init ++ [name]).length < (Text.fields p.text '/').length) =
      decide (trailing ≠ []) := by
    rw [decide_eq_decide, hfields, ← List.length_pos_iff]
    simp only [List.length_append, List.length_cons, List.length_nil]
    omega
  unfold site?
  dsimp only
  rw [hnamed, List.getLast?_concat, List.dropLast_concat, hslash]
  rcases l.disk.follow (l.start p) .directory init with e | ⟨directory, _ | content⟩
  · rfl
  · rfl
  · rfl

theorem site?_eq_some {site : Site} (h : l.site? p = .ok (some site)) :
    ∃ init trailing, p.segments = init ++ site.name :: trailing ∧ Disk.IsName site.name ∧
      l.disk.follow (l.start p) .directory init = .ok (site.directory, .directory) ∧
      site.slashAfter = decide (trailing ≠ []) := by
  rcases exists_last_part p.segments with hempty | ⟨init, name, trailing, hsplit, hname, hempty⟩
  · rw [site?_of_empty hempty] at h
    split at h <;> cases h
  · rw [site?_of_name hsplit hname hempty] at h
    rcases hfollow : l.disk.follow (l.start p) .directory init with e | ⟨directory, _ | content⟩
    · simp [hfollow] at h
    · rw [hfollow] at h
      by_cases hdots : name = ['.'] ∨ name = ['.', '.']
      · simp only [if_pos hdots] at h
        cases h
      · simp only [if_neg hdots] at h
        obtain rfl := Option.some.inj (Except.ok.inj h)
        rw [not_or] at hdots
        exact ⟨init, trailing, hsplit, ⟨hname, hdots⟩, hfollow, rfl⟩
    · simp [hfollow] at h

theorem isDirectory_of_find (h : l.find p = .ok (place, .directory)) : l.isDirectory p = true := by
  unfold isDirectory
  rw [h]

theorem PointsTo.find (h : l.PointsTo p place) :
    l.find p = match l.disk.get? place with
      | none => .error .notFound
      | some entry => .ok (place, entry) := by
  obtain ⟨init, name, directory, hsplit, hname, hfollow, rfl⟩ := h
  have htext : p.text ≠ [] := by
    intro hnil
    have hsegments : init ++ [name] = [[]] := by
      rw [← hsplit, Path.segments, hnil]
      rfl
    have hlast := congrArg List.getLast? hsegments
    rw [List.getLast?_concat] at hlast
    exact hname.1 (Option.some.inj hlast)
  unfold LocalFiles.find
  rw [if_neg htext]
  change l.disk.follow (l.start p) .directory p.segments = _
  rw [hsplit, Disk.follow_append, hfollow]
  change l.disk.follow directory .directory [name] = _
  rw [Disk.follow_name _ _ _ hname]
  rfl

theorem pointsTo_of_find {content : Content} (h : l.find p = .ok (place, .file content)) :
    l.PointsTo p place ∧ l.disk.get? place = some (.file content) := by
  unfold LocalFiles.find at h
  split at h
  · cases h
  · obtain ⟨init, name, directory, hsplit, hname, hinit, hplace, hfile⟩ :=
      Disk.name_of_follow_file h
    exact ⟨⟨init, name, directory, hsplit, hname, hinit, hplace⟩, hfile⟩

theorem WellFormed.get?_parent (hl : l.WellFormed) (h : l.PointsTo p place) :
    place ≠ [] ∧ l.disk.get? place.dropLast = some .directory := by
  obtain ⟨init, name, directory, -, -, hfollow, rfl⟩ := h
  refine ⟨by simp, ?_⟩
  rw [List.dropLast_concat]
  exact hl.tree.get?_of_follow (hl.get?_start p) hfollow

/-- A file is written at the place that its path points to, unless a directory is there. -/
theorem writeFile_eq_ok_iff :
    l.writeFile p text = .ok l' ↔ ∃ place, l.PointsTo p place ∧
      l.disk.get? place ≠ some .directory ∧
      l' = { l with disk := l.disk.put place (.file (.text text)) } := by
  constructor
  · intro h
    unfold writeFile at h
    cases hsite : l.site? p with
    | error e =>
      rw [hsite] at h
      cases h
    | ok site? =>
      rw [hsite] at h
      cases site? with
      | none => cases h
      | some site =>
        obtain ⟨init, trailing, hsplit, hname, hfollow, hslash⟩ := site?_eq_some hsite
        change (if site.slashAfter = true ∨
            l.disk.get? (site.directory ++ [site.name]) = some .directory then _
          else Except.ok _) = _ at h
        split at h
        · cases h
        · rename_i hno
          rw [not_or, hslash, decide_eq_true_eq, not_not] at hno
          obtain ⟨rfl, hdir⟩ := hno
          exact ⟨_, ⟨init, site.name, site.directory, hsplit, hname, hfollow, rfl⟩, hdir,
            (Except.ok.inj h).symm⟩
  · rintro ⟨place, ⟨init, name, directory, hsplit, hname, hfollow, rfl⟩, hdir, rfl⟩
    have hsite : l.site? p = .ok (some ⟨directory, name, false⟩) := by
      rw [site?_of_name hsplit hname.1 (by simp), hfollow]
      simp [hname.2]
    unfold writeFile
    rw [hsite]
    change (if false = true ∨ l.disk.get? (directory ++ [name]) = some .directory then _
      else Except.ok _) = _
    rw [if_neg (by simp [hdir])]

theorem writeFile_of_not_holds (hfree : l.holds p = false) (h : l.writeFile p text = .ok l') :
    ∃ place, l.disk.get? place = none ∧
      l' = { l with disk := l.disk.put place (.file (.text text)) } := by
  obtain ⟨place, hpoints, -, rfl⟩ := writeFile_eq_ok_iff.mp h
  refine ⟨place, ?_, rfl⟩
  cases hthere : l.disk.get? place with
  | none => rfl
  | some entry =>
    have hfind := hpoints.find
    rw [hthere] at hfind
    unfold holds at hfree
    rw [hfind] at hfree
    cases hfree

theorem makeDirectory_eq_ok {made : LocalFiles} (h : l.makeDirectory p = .ok made) :
    ∃ directory name, l.disk.get? (directory ++ [name]) = none ∧
      (l.WellFormed → l.disk.get? directory = some .directory) ∧
      made = { l with disk := l.disk.put (directory ++ [name]) .directory } := by
  unfold makeDirectory at h
  cases hsite : l.site? p with
  | error e =>
    rw [hsite] at h
    cases h
  | ok site? =>
    rw [hsite] at h
    cases site? with
    | none => cases h
    | some site =>
      obtain ⟨init, trailing, -, -, hfollow, -⟩ := site?_eq_some hsite
      change (if (l.disk.get? (site.directory ++ [site.name])).isSome = true then _
        else Except.ok _) = _ at h
      split at h
      · cases h
      · rename_i hnone
        refine ⟨site.directory, site.name, by simpa using hnone, ?_, (Except.ok.inj h).symm⟩
        intro hl
        exact hl.tree.get?_of_follow (hl.get?_start p) hfollow

/-- `made` are the files of `l` with more directories. -/
structure Extends (l made : LocalFiles) : Prop where
  grown : l.disk.Grown made.disk
  cwd : made.cwd = l.cwd
  wellFormed : l.WellFormed → made.WellFormed

theorem Extends.refl (l : LocalFiles) : l.Extends l :=
  ⟨Disk.Grown.refl l.disk, rfl, id⟩

theorem Extends.trans {a b c : LocalFiles} (hab : a.Extends b) (hbc : b.Extends c) :
    a.Extends c :=
  ⟨hab.grown.trans hbc.grown, hbc.cwd.trans hab.cwd, fun ha => hbc.wellFormed (hab.wellFormed ha)⟩

theorem extends_makeDirectory {made : LocalFiles} (h : l.makeDirectory p = .ok made) :
    l.Extends made := by
  obtain ⟨directory, name, hnone, hdir, rfl⟩ := makeDirectory_eq_ok h
  have hgrown := Disk.grown_put hnone
  refine ⟨hgrown, rfl, ?_⟩
  intro hl
  refine ⟨hl.tree.put (by simp) ?_ (Or.inr rfl), ?_⟩
  · rw [List.dropLast_concat]
    exact hdir hl
  · change (l.disk.put (directory ++ [name]) .directory).get? l.cwd = _
    rw [hgrown.get?_of_ne_none, hl.cwd]
    rw [hl.cwd]
    exact Option.some_ne_none _

/-- Whether or not all directories could be made, none that is there and no file is lost. -/
theorem extends_makeDirectories (l : LocalFiles) (paths : List Path) :
    l.Extends (l.makeDirectories paths).1 := by
  induction paths with
  | nil => exact Extends.refl l
  | cons p above ih =>
    unfold makeDirectories
    split
    · exact Extends.refl l
    cases hmake : l.makeDirectory p with
    | ok made => exact extends_makeDirectory hmake
    | error e =>
      cases e with
      | notFound =>
        -- The directories above are made first, then this one is tried once more.
        rcases habove : l.makeDirectories above with ⟨l₁, e | _⟩
        · rw [habove] at ih
          simpa only [habove] using ih
        · rw [habove] at ih
          cases hagain : l₁.makeDirectory p with
          | ok made =>
            simp only [hagain]
            exact ih.trans (extends_makeDirectory hagain)
          | error e =>
            simp only [hagain]
            exact ih
      | _ => exact Extends.refl l

theorem wellFormed_writeFile (hl : l.WellFormed) (h : l.writeFile p text = .ok l') :
    l'.WellFormed := by
  obtain ⟨place, hpoints, hdir, rfl⟩ := writeFile_eq_ok_iff.mp h
  obtain ⟨hroot, hparent⟩ := hl.get?_parent hpoints
  refine ⟨hl.tree.put hroot hparent (Or.inl hdir), ?_⟩
  -- A file is not written over a directory, so not over the current one.
  have hne : l.cwd ≠ place := by
    intro heq
    exact hdir (heq ▸ hl.cwd)
  exact (Disk.get?_put_of_ne _ _ hne).trans hl.cwd

theorem wellFormed_write (hl : l.WellFormed) (p : Path) (text : Text) :
    (l.write p text).1.WellFormed := by
  have hextends := (extends_makeDirectories l p.parents).wellFormed hl
  unfold write
  rcases hmade : l.makeDirectories p.parents with ⟨made, e | _⟩
  · rw [hmade] at hextends
    exact hextends
  · rw [hmade] at hextends
    cases hwrite : made.writeFile p text with
    | error e =>
      simp only [hwrite]
      exact hextends
    | ok l' =>
      simp only [hwrite]
      exact wellFormed_writeFile hextends hwrite

/-- The file that a path leads to by a detour: one that it finds only when the directories that
are missing on its way have been made. -/
def detour? (l : LocalFiles) (p : Path) : Option Place :=
  if l.holds p then none
  else
    match l.makeDirectories p.parents with
    | (_, .error _) => none
    | (made, .ok ()) =>
      match made.find p with
      | .ok (place, .file _) => some place
      | _ => none

theorem detour?_eq_some_iff :
    l.detour? p = some place ↔ l.holds p = false ∧ ∃ made content,
      l.makeDirectories p.parents = (made, .ok ()) ∧ made.find p = .ok (place, .file content) := by
  unfold detour?
  cases hholds : l.holds p with
  | true => simp
  | false =>
    rcases hmade : l.makeDirectories p.parents with ⟨made, e | _⟩
    · simp
    · rcases hfind : made.find p with e | ⟨q, _ | content⟩
      · simp [hfind]
      · simp [hfind]
      · simp [hfind]

/-- Of what is there, a write to a path under which nothing is found alters the file that the
path leads to by a detour, and nothing else. -/
theorem get?_write (hfree : l.holds p = false) (hplace : l.disk.get? place ≠ none) :
    (l.write p text).1.disk.get? place =
      if l.detour? p = some place then some (.file (.text text)) else l.disk.get? place := by
  have hextends := extends_makeDirectories l p.parents
  unfold write
  rcases hmade : l.makeDirectories p.parents with ⟨made, e | _⟩
  · rw [hmade] at hextends
    have hno : l.detour? p ≠ some place := by
      rw [Ne, detour?_eq_some_iff, hmade]
      simp
    rw [if_neg hno]
    exact hextends.grown.get?_of_ne_none hplace
  rw [hmade] at hextends
  have hsame := hextends.grown.get?_of_ne_none hplace
  have hdetour : l.detour? p = some place ↔
      ∃ content, made.find p = .ok (place, .file content) := by
    rw [detour?_eq_some_iff, hmade]
    simp [hfree]
  cases hwrite : made.writeFile p text with
  | error e =>
    have hno : l.detour? p ≠ some place := by
      rw [Ne, hdetour]
      rintro ⟨content, hfind⟩
      obtain ⟨hpoints, hfile⟩ := pointsTo_of_find hfind
      have hok : made.writeFile p text =
          .ok { made with disk := made.disk.put place (.file (.text text)) } :=
        writeFile_eq_ok_iff.mpr ⟨place, hpoints, by simp [hfile], rfl⟩
      rw [hwrite] at hok
      cases hok
    simp only [hwrite]
    rw [if_neg hno]
    exact hsame
  | ok l' =>
    obtain ⟨q, hpoints, hdir, rfl⟩ := writeFile_eq_ok_iff.mp hwrite
    simp only [hwrite]
    have hfind := hpoints.find
    by_cases heq : place = q
    · subst heq
      have hroot : place ≠ [] := by
        rintro rfl
        exact hdir (Disk.get?_root made.disk)
      rw [Disk.get?_put_self _ _ hroot, if_pos]
      -- What is there is no directory, so the path leads to a file now.
      rw [hdetour]
      cases hthere : made.disk.get? place with
      | none => exact absurd (hsame.symm.trans hthere) hplace
      | some entry =>
        cases entry with
        | directory => exact absurd hthere hdir
        | file content => exact ⟨content, by rw [hfind, hthere]⟩
    · have hno : l.detour? p ≠ some place := by
        rw [Ne, hdetour]
        rintro ⟨content, hfound⟩
        rw [hfind] at hfound
        split at hfound
        · cases hfound
        · exact heq (Prod.mk.inj (Except.ok.inj hfound)).1.symm
      rw [if_neg hno, Disk.get?_put_of_ne _ _ heq]
      exact hsame

theorem up_mem_of_detour? (hl : l.WellFormed) (h : l.detour? p = some place) :
    ['.', '.'] ∈ p.segments := by
  obtain ⟨hfree, made, content, hmade, hfind⟩ := detour?_eq_some_iff.mp h
  have hextends := extends_makeDirectories l p.parents
  rw [hmade] at hextends
  by_contra hup
  unfold LocalFiles.find at hfind
  split at hfind
  · cases hfind
  rename_i htext
  have hstart : made.start p = l.start p := by
    unfold start
    rw [hextends.cwd]
  rw [hstart] at hfind
  have hbefore := hextends.grown.follow_file hl.tree hup hfind
  have hfound : l.find p = .ok (place, .file content) := by
    unfold LocalFiles.find
    rw [if_neg htext]
    exact hbefore
  unfold holds at hfree
  rw [hfound] at hfree
  cases hfree

end LocalFiles

end TestScaffold
