import TestScaffold.Proofs.Disk.Succession

/-!
When the directories that lead to a place can be made. The paths above an absolute path are a
ladder, each one step below the next. Its directories can be made as soon as there is some disk,
with all that is there already, in which the ladder leads to a directory; and nothing is made that
this disk has not. So a write that succeeds among more directories and files succeeds without them.
-/

namespace TestScaffold

namespace Disk

/-- What there is in `d` is there in `u`, though files may hold something else. -/
structure Within (d u : Disk) : Prop where
  directories : d.KeepsDirectories u
  files : ∀ place content, d.get? place = some (.file content) →
    ∃ content', u.get? place = some (.file content')

variable {d u v : Disk} {place q : Place} {segments : List Text}

theorem Within.refl (d : Disk) : d.Within d :=
  ⟨fun _ h => h, fun _ content h => ⟨content, h⟩⟩

theorem Within.trans (hdu : d.Within u) (huv : u.Within v) : d.Within v := by
  refine ⟨fun place h => huv.directories place (hdu.directories place h), ?_⟩
  intro place content hfile
  obtain ⟨content', hthere⟩ := hdu.files place content hfile
  exact huv.files place content' hthere

theorem Within.put (h : d.Within u) (hplace : u.get? place = some .directory) :
    (d.put place .directory).Within u := by
  refine ⟨?_, ?_⟩
  · intro other hother
    rw [get?_put] at hother
    split at hother
    · rename_i hroot
      rw [hroot, get?_root]
    · split at hother
      · rename_i heq
        rw [heq, hplace]
      · exact h.directories other hother
  · intro other content hfile
    rw [get?_put] at hfile
    split at hfile
    · cases hfile
    · split at hfile
      · cases hfile
      · exact h.files other content hfile

/-- A way that leads to a directory where there is more is no more than unfinished. -/
theorem Within.follow (h : d.Within u)
    (hfollow : u.follow place .directory segments = .ok (q, .directory)) :
    d.follow place .directory segments = .ok (q, .directory) ∨
      d.follow place .directory segments = .error .notFound := by
  induction segments generalizing place with
  | nil => exact Or.inl hfollow
  | cons segment segments ih =>
    rcases follow_cons_eq_directory_iff.mp hfollow with
      ⟨hnull, hrest⟩ | ⟨rfl, hrest⟩ | ⟨hname, hthere, hrest⟩
    · rw [follow_null d place segments (Path.isNullSegment_iff.mp hnull)]
      exact ih hrest
    · rw [follow_up]
      exact ih hrest
    · rw [follow_name d place segments hname]
      cases hd : d.get? (place ++ [segment]) with
      | none => exact Or.inr rfl
      | some entry =>
        cases entry with
        | directory => exact ih hrest
        | file content =>
          -- A file is no directory where there is more.
          obtain ⟨content', hfile⟩ := h.files _ content hd
          cases hthere.symm.trans hfile

/-- Segments that are no components may be put in on the way to a directory. -/
theorem follow_of_filter
    (hfollow : d.follow place .directory (segments.filter (!Path.isNullSegment ·)) =
      .ok (q, .directory)) :
    d.follow place .directory segments = .ok (q, .directory) := by
  induction segments generalizing place with
  | nil => exact hfollow
  | cons segment segments ih =>
    apply follow_cons_eq_directory_iff.mpr
    cases hnull : Path.isNullSegment segment with
    | true =>
      rw [List.filter_cons_of_neg (by simp [hnull])] at hfollow
      exact Or.inl ⟨rfl, ih hfollow⟩
    | false =>
      rw [List.filter_cons_of_pos (by simp [hnull])] at hfollow
      rcases follow_cons_eq_directory_iff.mp hfollow with
        ⟨hnull', -⟩ | ⟨hup, hrest⟩ | ⟨hname, hthere, hrest⟩
      · cases hnull.symm.trans hnull'
      · exact Or.inr (Or.inl ⟨hup, ih hrest⟩)
      · exact Or.inr (Or.inr ⟨hname, hthere, ih hrest⟩)

end Disk

namespace Path

/-- Absolute paths up to the root, each one step below the next; the first has these steps. -/
inductive Ladder : List Path → List Text → Prop
  | root : Ladder [⟨['/']⟩] []
  | rung {above : List Path} {init : List Text} {p : Path} {step : Text}
      (habove : Ladder above (init.filter (!isNullSegment ·))) (habsolute : p.isAbsolute = true)
      (hsegments : p.segments = init ++ [step]) (hstep : isNullSegment step = false) :
      Ladder (p :: above) (init.filter (!isNullSegment ·) ++ [step])

theorem ladder_parentsOf {segments : List Text} (hslash : ∀ s ∈ segments, '/' ∉ s) :
    Ladder ((⟨.root, trimSegments segments⟩ :: Layout.parentsOf .root segments.reverse).map
      Layout.path) (segments.filter (!isNullSegment ·)) := by
  induction segments using List.reverseRecOn with
  | nil => exact .root
  | append_singleton init step ih =>
    have habove := ih fun s hs => hslash s (List.mem_append_left _ hs)
    have htrim : trimSegments (init ++ [step]) =
        if isNullSegment step then trimSegments init else init ++ [step] := by
      unfold trimSegments
      rw [List.reverse_append, List.reverse_singleton, List.singleton_append, List.dropWhile_cons]
      split
      · rfl
      · rw [List.reverse_cons, List.reverse_reverse]
    have hparents : Layout.parentsOf .root (init ++ [step]).reverse =
        if isNullSegment step then Layout.parentsOf .root init.reverse
        else ⟨.root, trimSegments init⟩ :: Layout.parentsOf .root init.reverse := by
      rw [List.reverse_append, List.reverse_singleton, List.singleton_append]
      simp only [Layout.parentsOf, List.reverse_reverse]
    rw [htrim, hparents, List.filter_append]
    cases hnull : isNullSegment step with
    | true =>
      rw [if_pos rfl, if_pos rfl, List.filter_cons_of_neg (by simp [hnull]), List.filter_nil,
        List.append_nil]
      exact habove
    | false =>
      rw [if_neg Bool.false_ne_true, if_neg Bool.false_ne_true,
        List.filter_cons_of_pos (by simp [hnull]), List.filter_nil, List.map_cons]
      have hsegments : (Layout.path ⟨.root, init ++ [step]⟩).segments = ([] :: init) ++ [step] := by
        have hjoined := Text.fields_join (List.append_ne_nil_of_right_ne_nil init
          (List.cons_ne_nil step [])) hslash
        exact (Text.fields_slash_cons _).trans (congrArg ([] :: ·) hjoined)
      exact @Ladder.rung _ ([] :: init) _ _ habove rfl hsegments hnull

/-- The paths above an absolute path that ends in a step are a ladder. -/
theorem ladder_parents {p : Path} {init : List Text} {step : Text} (hp : p.isAbsolute = true)
    (hsegments : p.segments = init ++ [step]) (hstep : isNullSegment step = false) :
    Ladder p.parents (init.filter (!isNullSegment ·)) := by
  obtain ⟨t, ht⟩ := isAbsolute_iff.mp hp
  have hlayout : p.layout = ⟨.root, Text.fields t '/'⟩ := by
    unfold layout
    rw [ht]
    rfl
  have hfields : p.segments = [] :: Text.fields t '/' := by
    unfold segments
    rw [ht, Text.fields_slash_cons]
  rw [hfields] at hsegments
  cases init with
  | nil => exact absurd (List.cons.inj hsegments).2 (List.splitOn_ne_nil '/' t)
  | cons first init =>
    obtain rfl := (List.cons.inj hsegments).1
    have hrest : Text.fields t '/' = init ++ [step] := (List.cons.inj hsegments).2
    have hslash : ∀ s ∈ init, '/' ∉ s := by
      intro s hs
      apply Text.not_mem_of_mem_fields (t := t)
      rw [hrest]
      exact List.mem_append_left _ hs
    have hparents : p.parents = (⟨.root, trimSegments init⟩ ::
        Layout.parentsOf .root init.reverse).map Layout.path := by
      unfold parents
      rw [hlayout, hrest, List.reverse_append, List.reverse_singleton, List.singleton_append]
      simp only [Layout.parentsOf, hstep, Bool.false_eq_true, if_false, List.reverse_reverse]
    rw [hparents]
    exact ladder_parentsOf hslash

end Path

namespace LocalFiles

variable {l : LocalFiles} {u : Disk} {p : Path} {init : List Text} {step : Text}
  {directory place : Place}

theorem find_of_absolute (hp : p.isAbsolute = true) :
    l.find p = l.disk.follow [] .directory p.segments := by
  unfold find start
  rw [if_neg (Path.text_ne_nil_of_isAbsolute hp), if_pos hp]
  rfl

section

variable (hp : p.isAbsolute = true) (hsegments : p.segments = init ++ [step])
  (hstep : Path.isNullSegment step = false)
include hp hsegments hstep

/-- Where the site of a path is found, when the path ends in a step. -/
theorem site?_of_step :
    l.site? p =
      match l.disk.follow [] .directory init with
      | .error e => .error e
      | .ok (_, .file _) => .error .notADirectory
      | .ok (directory, .directory) =>
        if step = ['.', '.'] then .ok none
        else .ok (some ⟨directory, step, false⟩) := by
  obtain ⟨hempty, hdot⟩ := Path.isNullSegment_eq_false_iff.mp hstep
  have hstart : l.start p = [] := if_pos hp
  rw [site?_of_name hsegments hempty (by simp), hstart]
  simp only [hdot, false_or]
  rfl

theorem makeDirectory_of_notFound (hinit : l.disk.follow [] .directory init = .error .notFound) :
    l.makeDirectory p = .error .notFound := by
  unfold makeDirectory
  rw [site?_of_step hp hsegments hstep, hinit]
  rfl

/-- A directory below one that is there can be made, or is there. -/
theorem makeDirectory_within (hwithin : l.disk.Within u)
    (hinit : l.disk.follow [] .directory init = .ok (directory, .directory))
    (hu : u.follow [] .directory (init ++ [step]) = .ok (place, .directory)) :
    (∃ made, l.makeDirectory p = .ok made ∧ made.disk.Within u ∧
      made.disk.follow [] .directory (init ++ [step]) = .ok (place, .directory)) ∨
    l.makeDirectory p = .error .alreadyExists ∧ l.isDirectory p = true ∧
      l.disk.follow [] .directory (init ++ [step]) = .ok (place, .directory) := by
  have hfind := find_of_absolute (l := l) hp
  have hsite := site?_of_step (l := l) hp hsegments hstep
  rw [hinit] at hsite
  rw [hsegments, Disk.follow_append, hinit] at hfind
  rw [Disk.follow_append, hwithin.directories.follow hinit] at hu
  rw [Disk.follow_append, hinit]
  change l.find p = l.disk.follow directory .directory [step] at hfind
  change u.follow directory .directory [step] = .ok (place, .directory) at hu
  rcases Disk.follow_cons_eq_directory_iff.mp hu with
    ⟨hnull, -⟩ | ⟨rfl, hplace⟩ | ⟨hname, hthere, hplace⟩
  · cases hstep.symm.trans hnull
  · -- A step up leads to a directory that is there.
    have hup : l.disk.follow directory .directory [['.', '.']] = .ok (place, .directory) := by
      rw [Disk.follow_up]
      exact hplace
    refine Or.inr ⟨?_, ?_, hup⟩
    · unfold makeDirectory
      rw [hsite]
      rfl
    · exact isDirectory_of_find (hfind.trans hup)
  · obtain rfl : directory ++ [step] = place := (Prod.mk.inj (Except.ok.inj hplace)).1
    have hlast : ∀ d : Disk, d.get? (directory ++ [step]) = some .directory →
        d.follow directory .directory [step] = .ok (directory ++ [step], .directory) := by
      intro d hd
      rw [Disk.follow_name d directory [] hname, hd]
      rfl
    have hmake : l.makeDirectory p = if (l.disk.get? (directory ++ [step])).isSome
        then .error .alreadyExists
        else .ok { l with disk := l.disk.put (directory ++ [step]) .directory } := by
      simp only [if_neg hname.2.2] at hsite
      unfold makeDirectory
      rw [hsite]
      rfl
    cases hget : l.disk.get? (directory ++ [step]) with
    | none =>
      rw [hget] at hmake
      refine Or.inl ⟨_, hmake, hwithin.put hthere, ?_⟩
      have hkept := Disk.grown_put hget
      have hagain : (l.disk.put (directory ++ [step]) .directory).follow [] .directory init =
          .ok (directory, .directory) := by
        refine Disk.KeepsDirectories.follow ?_ hinit
        intro other hother
        rw [hkept.get?_of_ne_none (hother ▸ Option.some_ne_none _), hother]
      rw [Disk.follow_append, hagain]
      apply hlast
      rw [Disk.get?_put, if_neg (by simp), if_pos rfl]
    | some entry =>
      rw [hget] at hmake
      cases entry with
      | directory =>
        exact Or.inr ⟨hmake, isDirectory_of_find (hfind.trans (hlast l.disk hget)),
          hlast l.disk hget⟩
      | file content =>
        obtain ⟨content', hfile⟩ := hwithin.files _ content hget
        cases hthere.symm.trans hfile

end

/-- The directories of a ladder can be made when it leads to a directory where there is more. -/
theorem makeDirectories_within {paths : List Path} {steps : List Text}
    (h : Path.Ladder paths steps) (hwithin : l.disk.Within u)
    (hu : u.follow [] .directory steps = .ok (place, .directory)) :
    ∃ made, l.makeDirectories paths = (made, .ok ()) ∧ made.disk.Within u ∧
      made.disk.follow [] .directory steps = .ok (place, .directory) := by
  induction h generalizing place with
  | root => exact ⟨l, rfl, hwithin, hu⟩
  | @rung above init p step habove hp hsegments hstep ih =>
    rw [← Path.filter_isNullSegment_concat init hstep] at hu ⊢
    have hlast := Disk.follow_of_filter hu
    -- The rung below leads to a directory too.
    obtain ⟨directory, hdirectory⟩ : ∃ directory,
        u.follow [] .directory init = .ok (directory, .directory) := by
      rw [Disk.follow_append] at hlast
      rcases hinit : u.follow [] .directory init with e | ⟨directory, _ | content⟩
      · rw [hinit] at hlast
        cases hlast
      · exact ⟨directory, rfl⟩
      · rw [hinit] at hlast
        cases hlast
    unfold makeDirectories
    rw [if_neg (Path.text_ne_nil_of_isAbsolute hp)]
    rcases hwithin.follow hdirectory with hinit | hmissing
    · rcases makeDirectory_within hp hsegments hstep hwithin hinit hlast with
        ⟨made, hmake, hmade, hleads⟩ | ⟨hmake, hthere, hleads⟩
      · rw [hmake]
        exact ⟨made, rfl, hmade, Disk.follow_filter hleads⟩
      · rw [hmake]
        dsimp only
        rw [if_pos hthere]
        exact ⟨l, rfl, hwithin, Disk.follow_filter hleads⟩
    · obtain ⟨below, hbelow, hmade, hleads⟩ := ih (Disk.follow_filter hdirectory)
      rw [makeDirectory_of_notFound hp hsegments hstep hmissing, hbelow]
      rcases makeDirectory_within hp hsegments hstep hmade (Disk.follow_of_filter hleads) hlast with
        ⟨made, hmake, hmade, hleads⟩ | ⟨hmake, hthere, hleads⟩
      · dsimp only
        rw [hmake]
        exact ⟨made, rfl, hmade, Disk.follow_filter hleads⟩
      · dsimp only
        rw [hmake]
        dsimp only
        rw [if_pos hthere]
        exact ⟨below, rfl, hmade, Disk.follow_filter hleads⟩

/-- A file can be written where the directory of its path exists or can be made, and no directory
is in its place. -/
theorem write_within (text : Text) {name : Text} (hp : p.isAbsolute = true)
    (hsegments : p.segments = init ++ [name]) (hname : Disk.IsName name)
    (hwithin : l.disk.Within u)
    (hu : u.follow [] .directory init = .ok (directory, .directory))
    (hfree : u.get? (directory ++ [name]) ≠ some .directory) :
    ∃ made, l.makeDirectories p.parents = (made, .ok ()) ∧ made.disk.Within u ∧
      made.PointsTo p (directory ++ [name]) ∧
      l.write p text =
        ({ made with disk := made.disk.put (directory ++ [name]) (.file (.text text)) }, .ok ()) := by
  have hstep : Path.isNullSegment name = false :=
    Path.isNullSegment_eq_false_iff.mpr ⟨hname.1, hname.2.1⟩
  obtain ⟨made, hmake, hmade, hleads⟩ :=
    makeDirectories_within (Path.ladder_parents hp hsegments hstep) hwithin (Disk.follow_filter hu)
  have hpoints : made.PointsTo p (directory ++ [name]) := by
    refine ⟨init, name, directory, hsegments, hname, ?_, rfl⟩
    rw [show made.start p = [] from if_pos hp]
    exact Disk.follow_of_filter hleads
  refine ⟨made, hmake, hmade, hpoints, ?_⟩
  have hwrite : made.writeFile p text =
      .ok { made with disk := made.disk.put (directory ++ [name]) (.file (.text text)) } :=
    writeFile_eq_ok_iff.mpr ⟨_, hpoints, fun h => hfree (hmade.directories _ h), rfl⟩
  unfold write
  rw [hmake]
  dsimp only
  rw [hwrite]

theorem Extends.within {made : LocalFiles} (h : l.Extends made) : l.disk.Within made.disk := by
  refine ⟨h.later.directories, ?_⟩
  intro place content hfile
  refine ⟨content, ?_⟩
  rw [h.grown.get?_of_ne_none (hfile ▸ Option.some_ne_none _), hfile]

/-- Where a path points to a place without a directory, a file can be written. -/
theorem PointsTo.exists_write (h : l.PointsTo p place) (hp : p.isAbsolute = true)
    (hfree : l.disk.get? place ≠ some .directory) (text : Text) :
    ∃ l', l.write p text = (l', .ok ()) := by
  obtain ⟨init, name, directory, hsegments, hname, hfollow, rfl⟩ := h
  rw [show l.start p = [] from if_pos hp] at hfollow
  obtain ⟨made, -, -, -, hwrite⟩ :=
    write_within text hp hsegments hname (Disk.Within.refl l.disk) hfollow hfree
  exact ⟨_, hwrite⟩

/-- A write that succeeds where there is more succeeds where there is less. -/
theorem exists_write_of_within {m m' : LocalFiles} {text : Text} (hp : p.isAbsolute = true)
    (hwithin : l.disk.Within m.disk) (h : m.write p text = (m', .ok ())) (text' : Text) :
    ∃ l', l.write p text' = (l', .ok ()) := by
  have hextends := extends_makeDirectories m p.parents
  unfold write at h
  rcases hmade : m.makeDirectories p.parents with ⟨made, e | _⟩
  · rw [hmade] at h
    cases (Prod.mk.inj h).2
  rw [hmade] at h hextends
  cases hwrite : made.writeFile p text with
  | error e =>
    simp only [hwrite] at h
    cases (Prod.mk.inj h).2
  | ok after =>
    obtain ⟨place, ⟨init, name, directory, hsegments, hname, hfollow, rfl⟩, hfree, -⟩ :=
      writeFile_eq_ok_iff.mp hwrite
    rw [show made.start p = [] from if_pos hp] at hfollow
    obtain ⟨_, -, -, -, hwritten⟩ :=
      write_within text' hp hsegments hname (hwithin.trans hextends.within) hfollow hfree
    exact ⟨_, hwritten⟩

theorem PointsTo.unique {other : Place} (h : l.PointsTo p place) (h' : l.PointsTo p other) :
    place = other := by
  obtain ⟨init, name, directory, hsegments, -, hfollow, rfl⟩ := h
  obtain ⟨init', name', directory', hsegments', -, hfollow', rfl⟩ := h'
  obtain ⟨rfl, hname⟩ := List.append_inj' (hsegments.symm.trans hsegments') rfl
  obtain rfl := (List.cons.inj hname).1
  rw [hfollow] at hfollow'
  obtain rfl := (Prod.mk.inj (Except.ok.inj hfollow')).1
  rfl

end LocalFiles

end TestScaffold
