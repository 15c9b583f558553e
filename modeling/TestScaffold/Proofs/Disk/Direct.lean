import Mathlib.Data.List.Find
import TestScaffold.Ignore.Walk
import TestScaffold.Proofs.Disk.Directories

/-!
Paths that go straight down from the root. Such a path is absolute, has no `..` and ends in a name,
so on a tree it leads to the place that its steps are. What a write to it comes to depends on what
is at this place and on the way there, and nothing else is changed than that.
-/

namespace TestScaffold

/-- An absolute path without `..` that ends in a name. -/
structure Path.IsDirect (p : Path) : Prop where
  absolute : p.isAbsolute = true
  up : ['.', '.'] ∉ p.segments
  named : ∃ name, p.segments.getLast? = some name ∧ Disk.IsName name

/-- What a file holds; a directory holds nothing. -/
def Entry.content? : Entry → Option Content
  | directory => none
  | file content => some content

namespace Disk

variable {d : Disk} {place q : Place} {names : List Text}

/-- Names lead down through directories. -/
theorem follow_of_directories (hnames : ∀ x ∈ names, IsName x)
    (hdirectories : ∀ front, front <+: names → d.get? (place ++ front) = some .directory) :
    d.follow place .directory names = .ok (place ++ names, .directory) := by
  induction names generalizing place with
  | nil => rw [List.append_nil]; rfl
  | cons name names ih =>
    have hfirst : d.get? (place ++ [name]) = some .directory :=
      hdirectories [name] (List.prefix_append [name] names)
    have hrest : ∀ front, front <+: names → d.get? (place ++ [name] ++ front) = some .directory := by
      intro front hfront
      rw [List.append_assoc]
      exact hdirectories (name :: front) (List.cons_prefix_cons.mpr ⟨rfl, hfront⟩)
    have hthere := ih (fun x hx => hnames x (List.mem_cons_of_mem name hx)) hrest
    rw [follow_name d place names (hnames name List.mem_cons_self), hfirst]
    rwa [List.append_assoc] at hthere

/-- A path without `..` leads down when there are directories on its way. -/
theorem follow_straight {segments : List Text} (hup : ['.', '.'] ∉ segments)
    (hdirectories : ∀ front, front <+: segments.filter (!Path.isNullSegment ·) →
      d.get? front = some .directory) :
    d.follow [] .directory segments =
      .ok (segments.filter (!Path.isNullSegment ·), .directory) := by
  apply follow_of_filter
  exact follow_of_directories (isName_of_mem_filter hup) hdirectories

/-- Where there is a file on the way, the way ends: nothing leads on from it. -/
theorem IsTree.follow_of_file (h : d.IsTree) (place : Place) {segments : List Text} {front : Place}
    {content : Content} (hup : ['.', '.'] ∉ segments)
    (hfile : d.get? (place ++ front) = some (.file content)) (hfront : front ≠ [])
    (hbegins : front <+: segments.filter (!Path.isNullSegment ·)) :
    d.follow place .directory segments = .error .notADirectory ∨
      front = segments.filter (!Path.isNullSegment ·) ∧
        d.follow place .directory segments = .ok (place ++ front, .file content) := by
  induction segments generalizing place front with
  | nil => exact absurd (List.prefix_nil.mp hbegins) hfront
  | cons segment segments ih =>
    rw [List.mem_cons, not_or] at hup
    cases hnull : Path.isNullSegment segment with
    | true =>
      rw [List.filter_cons_of_neg (by simp [hnull])] at hbegins ⊢
      rw [follow_null d place segments (Path.isNullSegment_iff.mp hnull)]
      exact ih place hup.2 hfile hfront hbegins
    | false =>
      obtain ⟨hempty, hdot⟩ := Path.isNullSegment_eq_false_iff.mp hnull
      rw [List.filter_cons_of_pos (by simp [hnull])] at hbegins ⊢
      rw [follow_name d place segments ⟨hempty, hdot, Ne.symm hup.1⟩]
      obtain ⟨x, front, rfl⟩ := List.exists_cons_of_ne_nil hfront
      obtain ⟨rfl, hbelow⟩ := List.cons_prefix_cons.mp hbegins
      rw [List.append_cons] at hfile
      by_cases hlast : front = []
      · subst hlast
        rw [List.append_nil] at hfile
        rw [hfile]
        cases segments with
        | nil => exact Or.inr ⟨rfl, rfl⟩
        | cons y segments => exact Or.inl rfl
      · -- What lies above the file is a directory, from which the way leads on.
        rw [h.get?_above hlast (hfile ▸ Option.some_ne_none _)]
        rcases ih _ hup.2 hfile hlast hbelow with herror | ⟨heq, hok⟩
        · exact Or.inl herror
        · rw [List.append_assoc] at hok
          exact Or.inr ⟨congrArg (x :: ·) heq, hok⟩

/-- A path without `..` leads to the place of its steps, if anywhere. -/
theorem place_of_follow {entry e : Entry} {segments : List Text} (hup : ['.', '.'] ∉ segments)
    (hfollow : d.follow place entry segments = .ok (q, e)) :
    q = place ++ segments.filter (!Path.isNullSegment ·) := by
  induction segments generalizing place entry with
  | nil =>
    obtain ⟨rfl, -⟩ := Prod.mk.inj (Except.ok.inj hfollow)
    rw [List.filter_nil, List.append_nil]
  | cons segment segments ih =>
    rw [List.mem_cons, not_or] at hup
    cases entry with
    | file content => cases hfollow
    | directory =>
      cases hnull : Path.isNullSegment segment with
      | true =>
        rw [follow_null d place segments (Path.isNullSegment_iff.mp hnull)] at hfollow
        rw [List.filter_cons_of_neg (by simp [hnull])]
        exact ih hup.2 hfollow
      | false =>
        obtain ⟨hempty, hdot⟩ := Path.isNullSegment_eq_false_iff.mp hnull
        rw [follow_name d place segments ⟨hempty, hdot, Ne.symm hup.1⟩] at hfollow
        rw [List.filter_cons_of_pos (by simp [hnull]), List.append_cons]
        split at hfollow
        · cases hfollow
        · exact ih hup.2 hfollow

theorem IsTree.get?_prefix (h : d.IsTree) (hplace : d.get? place = some .directory)
    (hq : q <+: place) : d.get? q = some .directory := by
  obtain ⟨rest, rfl⟩ := hq
  by_cases hrest : rest = []
  · rwa [hrest, List.append_nil] at hplace
  · exact h.get?_above hrest (hplace ▸ Option.some_ne_none _)

theorem get?_foldl_put (d : Disk) (q : Place) (places : List Place) :
    (places.foldl (fun d above =>
      if (d.get? above).isNone then d.put above .directory else d) d).get? q =
        if q ∈ places ∧ d.get? q = none then some .directory else d.get? q := by
  induction places generalizing d with
  | nil => simp
  | cons above places ih =>
    have hfirst : (if (d.get? above).isNone then d.put above .directory else d).get? q =
        if q = above ∧ d.get? q = none then some .directory else d.get? q := by
      by_cases hq : q = above
      · subst hq
        cases hget : d.get? q with
        | none =>
          have hroot : q ≠ [] := by
            rintro rfl
            cases (get?_root d).symm.trans hget
          simp [get?_put_self d _ hroot]
        | some entry => simp [hget]
      · rw [if_neg (c := q = above ∧ _) fun h => hq h.1]
        split
        · exact get?_put_of_ne d _ hq
        · rfl
    rw [List.foldl_cons, ih, hfirst]
    by_cases hnone : d.get? q = none
    · by_cases hq : q = above
      · subst hq
        simp [hnone]
      · simp [hq, hnone]
    · simp [hnone]

/-- The directories that are missing on the way to a place are made, and nothing else. -/
theorem get?_withDirectories (d : Disk) (place q : Place) :
    (d.withDirectories place).get? q =
      if q <+: place ∧ d.get? q = none then some .directory else d.get? q := by
  have hfold : d.withDirectories place =
      ((List.range place.length).map fun n => place.take (n + 1)).foldl (fun d above =>
        if (d.get? above).isNone then d.put above .directory else d) d := by
    rw [List.foldl_map]
    rfl
  rw [hfold, get?_foldl_put]
  by_cases hnone : d.get? q = none
  · have hroot : q ≠ [] := by
      rintro rfl
      cases (get?_root d).symm.trans hnone
    have hmem : q ∈ (List.range place.length).map (fun n => place.take (n + 1)) ↔ q <+: place := by
      rw [List.mem_map]
      constructor
      · rintro ⟨n, -, rfl⟩
        exact List.take_prefix _ _
      · intro hq
        have hlength := List.length_pos_iff.mpr hroot
        refine ⟨q.length - 1, List.mem_range.mpr ?_, ?_⟩
        · have hle := hq.length_le
          omega
        · rw [Nat.sub_add_cancel hlength]
          exact (List.prefix_iff_eq_take.mp hq).symm
    simp only [hmem]
  · simp [hnone]

theorem within_withDirectories (d : Disk) (place : Place) : d.Within (d.withDirectories place) := by
  have hkept : ∀ q, d.get? q ≠ none → (d.withDirectories place).get? q = d.get? q := by
    intro q hq
    rw [get?_withDirectories, if_neg fun h => hq h.2]
  refine ⟨?_, ?_⟩
  · intro q hq
    rw [hkept q (hq ▸ Option.some_ne_none _), hq]
  · intro q content hq
    exact ⟨content, by rw [hkept q (hq ▸ Option.some_ne_none _), hq]⟩

theorem mem_placesAbove {place q : Place} : q ∈ placesAbove place ↔ q <+: place ∧ q ≠ place := by
  unfold placesAbove
  rw [List.mem_map]
  constructor
  · rintro ⟨n, hn, rfl⟩
    refine ⟨List.take_prefix _ _, ?_⟩
    intro heq
    have hlength := congrArg List.length heq
    rw [List.mem_reverse, List.mem_range] at hn
    rw [List.length_take] at hlength
    omega
  · rintro ⟨hq, hne⟩
    refine ⟨q.length, ?_, (List.prefix_iff_eq_take.mp hq).symm⟩
    rw [List.mem_reverse, List.mem_range]
    refine lt_of_le_of_ne hq.length_le fun hlength => hne ?_
    exact hq.eq_of_length hlength

theorem content?_eq_bind (d : Disk) (place : Place) :
    d.content? place = (d.get? place).bind Entry.content? := by
  unfold content?
  rcases d.get? place with _ | _ | content <;> rfl

theorem content?_eq_none_iff : d.content? place = none ↔ ∀ content,
    d.get? place ≠ some (.file content) := by
  rw [content?_eq_bind]
  rcases d.get? place with _ | _ | content <;> simp [Entry.content?]

theorem content?_eq_some_iff {content : Content} :
    d.content? place = some content ↔ d.get? place = some (.file content) := by
  rw [content?_eq_bind]
  rcases d.get? place with _ | _ | content <;> simp [Entry.content?]

/-- What keeps a file from being written at a place that a path goes straight down to. -/
def obstacle? (d : Disk) (place : Place) : Option FileError :=
  match (placesAbove place).find? fun above => (d.content? above).isSome with
  | some above => some (if above = place.dropLast then .alreadyExists else .notADirectory)
  | none => if d.get? place = some .directory then some .isADirectory else none

theorem obstacle?_cases (d : Disk) (place : Place) :
    (∃ above content, above <+: place ∧ above ≠ place ∧ d.get? above = some (.file content) ∧
      d.obstacle? place =
        some (if above = place.dropLast then .alreadyExists else .notADirectory)) ∨
    (∀ above, above <+: place → above ≠ place → d.content? above = none) ∧
      d.obstacle? place =
        if d.get? place = some .directory then some .isADirectory else none := by
  unfold obstacle?
  cases hfind : (placesAbove place).find? fun above => (d.content? above).isSome with
  | some above =>
    obtain ⟨hbegins, hne⟩ := mem_placesAbove.mp (List.mem_of_find?_eq_some hfind)
    have hfile : (d.content? above).isSome = true := by simpa using List.find?_some hfind
    obtain ⟨content, hcontent⟩ := Option.isSome_iff_exists.mp hfile
    exact Or.inl ⟨above, content, hbegins, hne, content?_eq_some_iff.mp hcontent, rfl⟩
  | none =>
    refine Or.inr ⟨?_, rfl⟩
    intro above hbegins hne
    have hnot := List.find?_eq_none.mp hfind above (mem_placesAbove.mpr ⟨hbegins, hne⟩)
    simpa using hnot

theorem get?_plant (hplace : place ≠ []) (entry : Entry) :
    (d.plant place entry).get? q =
      if q = place then some entry
      else if q <+: place ∧ d.get? q = none then some .directory
      else d.get? q := by
  unfold plant
  by_cases hq : q = place
  · rw [hq, get?_put_self _ _ hplace, if_pos rfl]
  · have hbegins : q <+: place.dropLast ↔ q <+: place := by
      refine ⟨fun h => h.trans (List.dropLast_prefix place), ?_⟩
      intro h
      rw [← List.dropLast_append_getLast hplace, List.prefix_concat_iff,
        List.dropLast_append_getLast hplace] at h
      exact h.resolve_left hq
    rw [get?_put_of_ne _ _ hq, if_neg hq, get?_withDirectories]
    simp only [hbegins]

/-- What is at a place is the same before and after, and the way there too, but for directories
that have been made. -/
structure SameWay (before after : Disk) (place : Place) : Prop where
  there : after.get? place = before.get? place
  above : ∀ q, q <+: place → after.get? q = before.get? q ∨
    before.get? q = none ∧ after.get? q = some .directory

namespace SameWay

variable {before after last : Disk}

theorem of_get?_eq (h : ∀ q, after.get? q = before.get? q) (place : Place) :
    before.SameWay after place :=
  ⟨h place, fun q _ => Or.inl (h q)⟩

theorem trans (h : before.SameWay after place) (h' : after.SameWay last place) :
    before.SameWay last place := by
  refine ⟨h'.there.trans h.there, ?_⟩
  intro q hq
  rcases h'.above q hq with hsame | ⟨hnone, hdirectory⟩
  · rw [hsame]
    exact h.above q hq
  · rcases h.above q hq with hold | ⟨-, hmade⟩
    · exact Or.inr ⟨hold.symm.trans hnone, hdirectory⟩
    · cases hnone.symm.trans hmade

theorem content?_eq (h : before.SameWay after place) (hq : q <+: place) :
    after.content? q = before.content? q := by
  unfold content?
  rcases h.above q hq with hsame | ⟨hnone, hdirectory⟩
  · rw [hsame]
  · rw [hnone, hdirectory]

/-- On the same way there is the same obstacle. -/
theorem obstacle?_eq (h : before.SameWay after place) :
    after.obstacle? place = before.obstacle? place := by
  have hfind : (placesAbove place).find? (fun above => (after.content? above).isSome) =
      (placesAbove place).find? fun above => (before.content? above).isSome := by
    apply List.find?_congr
    intro above habove
    rw [h.content?_eq (mem_placesAbove.mp habove).1]
  unfold obstacle?
  rw [hfind, h.there]

end SameWay

/-- A file that is planted leaves the way to a place as it was that it does not lie on. -/
theorem sameWay_plant {other : Place} (entry : Entry) (hother : ¬ place <+: other)
    (hplace : ¬ other <+: place) : d.SameWay (d.plant place entry) other := by
  have hroot : place ≠ [] := by
    rintro rfl
    exact hother (List.nil_prefix)
  refine ⟨?_, ?_⟩
  · rw [get?_plant hroot, if_neg, if_neg fun h => hplace h.1]
    rintro rfl
    exact hother List.prefix_rfl
  · intro q hq
    have hne : q ≠ place := by
      rintro rfl
      exact hother hq
    rw [get?_plant hroot, if_neg hne]
    split
    · rename_i h
      exact Or.inr ⟨h.2, rfl⟩
    · exact Or.inl rfl

end Disk

namespace Path.IsDirect

variable {p : Path}

/-- The steps of a direct path are those of its directory and its name. -/
theorem exists_split (hp : p.IsDirect) : ∃ init name, p.segments = init ++ [name] ∧
    Disk.IsName name ∧ ['.', '.'] ∉ init ∧ p.steps = init.filter (!isNullSegment ·) ++ [name] := by
  obtain ⟨name, hlast, hname⟩ := hp.named
  obtain ⟨init, hsegments⟩ := List.getLast?_eq_some_iff.mp hlast
  have hstep : isNullSegment name = false := isNullSegment_eq_false_iff.mpr ⟨hname.1, hname.2.1⟩
  refine ⟨init, name, hsegments, hname, ?_, ?_⟩
  · have hup := hp.up
    rw [hsegments, List.mem_append, not_or] at hup
    exact hup.1
  · rw [steps_of_segments hsegments, filter_isNullSegment_concat init hstep]

theorem steps_ne_nil (hp : p.IsDirect) : p.steps ≠ [] := by
  obtain ⟨init, name, -, -, -, hsteps⟩ := hp.exists_split
  rw [hsteps]
  exact List.append_ne_nil_of_right_ne_nil _ (List.cons_ne_nil name [])

end Path.IsDirect

namespace LocalFiles

variable {l : LocalFiles} {p : Path} {place : Place} {entry : Entry} {text : Text}

section Reading

variable (hl : l.disk.IsTree) (hp : p.IsDirect)
include hl hp

theorem find_eq_ok_iff_of_isDirect :
    l.find p = .ok (place, entry) ↔ place = p.steps ∧ l.disk.get? p.steps = some entry := by
  have hroot := Disk.get?_root l.disk
  constructor
  · intro hfind
    rw [find_of_absolute hp.absolute] at hfind
    have hplace := Disk.place_of_follow hp.up hfind
    have hthere := hl.get?_of_follow hroot hfind
    rw [List.nil_append] at hplace
    subst hplace
    exact ⟨rfl, hthere⟩
  · rintro ⟨rfl, hthere⟩
    obtain ⟨init, name, hsegments, hname, hup, hsteps⟩ := hp.exists_split
    have hinit : l.disk.follow [] .directory init =
        .ok (init.filter (!Path.isNullSegment ·), .directory) := by
      apply Disk.follow_straight hup
      rintro front ⟨rest, hrest⟩
      rw [hsteps, ← hrest, List.append_assoc] at hthere
      exact hl.get?_above (by simp) (hthere ▸ Option.some_ne_none _)
    have hpoints : l.PointsTo p p.steps := by
      refine ⟨init, name, _, hsegments, hname, ?_, hsteps⟩
      rw [show l.start p = [] from if_pos hp.absolute]
      exact hinit
    rw [hpoints.find, hthere]

theorem find_of_isDirect :
    (l.find p).toOption = (l.disk.get? p.steps).map fun entry => (p.steps, entry) := by
  cases hthere : l.disk.get? p.steps with
  | some entry =>
    rw [(find_eq_ok_iff_of_isDirect hl hp).mpr ⟨rfl, hthere⟩]
    rfl
  | none =>
    rcases hfound : l.find p with e | ⟨place, entry⟩
    · rfl
    · cases hthere.symm.trans ((find_eq_ok_iff_of_isDirect hl hp).mp hfound).2

theorem holds_of_isDirect : l.holds p = (l.disk.get? p.steps).isSome := by
  have hholds : l.holds p = (l.find p).toOption.isSome := by
    unfold holds
    cases l.find p <;> rfl
  rw [hholds, find_of_isDirect hl hp, Option.isSome_map]

theorem content_of_isDirect : (l.content p).toOption = l.disk.content? p.steps := by
  have hcontent : (l.content p).toOption =
      (l.find p).toOption.bind fun found => found.2.content? := by
    unfold content
    rcases l.find p with e | ⟨place, _ | content⟩ <;> rfl
  rw [hcontent, find_of_isDirect hl hp, Disk.content?_eq_bind]
  cases l.disk.get? p.steps <;> rfl

end Reading

section Writing

variable {paths : List Path} {steps above : List Text} {content : Content}

/-- A file on the way of a path is in the way of making a directory there. -/
theorem makeDirectory_of_file {init : List Text} {step : Text} (hl : l.disk.IsTree)
    (hp : p.isAbsolute = true) (hsegments : p.segments = init ++ [step])
    (hstep : Path.isNullSegment step = false) (hup : ['.', '.'] ∉ init) (hlast : step ≠ ['.', '.'])
    (hne : above ≠ []) (hfile : l.disk.get? above = some (.file content))
    (habove : above <+: init.filter (!Path.isNullSegment ·) ++ [step]) :
    l.makeDirectory p = .error (if above = init.filter (!Path.isNullSegment ·) ++ [step]
      then .alreadyExists else .notADirectory) := by
  unfold makeDirectory
  rw [site?_of_step hp hsegments hstep]
  by_cases heq : above = init.filter (!Path.isNullSegment ·) ++ [step]
  · have hstraight := Disk.follow_straight (d := l.disk) hup fun front hfront => by
      obtain ⟨rest, hrest⟩ := hfront
      rw [heq, ← hrest, List.append_assoc] at hfile
      exact hl.get?_above (by simp) (hfile ▸ Option.some_ne_none _)
    rw [hstraight, if_pos heq]
    dsimp only
    rw [if_neg hlast]
    change (if (l.disk.get? (init.filter (!Path.isNullSegment ·) ++ [step])).isSome = true
      then _ else _) = _
    rw [← heq, hfile]
    rfl
  · have hbelow := (List.prefix_concat_iff.mp habove).resolve_left heq
    rw [if_neg heq]
    rcases hl.follow_of_file [] hup hfile hne hbelow with herror | ⟨-, hok⟩
    · rw [herror]
      rfl
    · rw [hok]
      rfl

/-- A path on whose way there is a file leads to this file or nowhere. -/
theorem isDirectory_of_file (hl : l.disk.IsTree) (hp : p.isAbsolute = true)
    (hup : ['.', '.'] ∉ p.segments) (hne : above ≠ [])
    (hfile : l.disk.get? above = some (.file content))
    (habove : above <+: p.segments.filter (!Path.isNullSegment ·)) : l.isDirectory p = false := by
  unfold isDirectory
  rw [find_of_absolute hp]
  rcases hl.follow_of_file [] hup hfile hne habove with herror | ⟨-, hok⟩
  · rw [herror]
  · rw [hok]

theorem makeDirectories_of_error {paths : List Path} {e : FileError} (hp : p.isAbsolute = true)
    (hmake : l.makeDirectory p = .error e) (he : e ≠ .notFound)
    (hdirectory : l.isDirectory p = false) : l.makeDirectories (p :: paths) = (l, .error e) := by
  unfold makeDirectories
  rw [if_neg (Path.text_ne_nil_of_isAbsolute hp), hmake, hdirectory]
  cases e with
  | notFound => exact absurd rfl he
  | _ => rfl

/-- No directory is made on a way that a file stands on. -/
theorem makeDirectories_of_file (hl : l.disk.IsTree) (h : Path.Ladder paths steps)
    (hup : ['.', '.'] ∉ steps) (habove : above <+: steps)
    (hfile : l.disk.get? above = some (.file content)) :
    l.makeDirectories paths =
      (l, .error (if above = steps then .alreadyExists else .notADirectory)) := by
  have hne : above ≠ [] := by
    rintro rfl
    cases (Disk.get?_root l.disk).symm.trans hfile
  cases h with
  | root => exact absurd (List.prefix_nil.mp habove) hne
  | @rung paths init p step hladder hp hsegments hstep =>
    have hfilter := Path.filter_isNullSegment_concat init hstep
    have hupAll : ['.', '.'] ∉ init ++ [step] := by
      intro hmem
      exact hup (hfilter ▸ List.mem_filter.mpr ⟨hmem, rfl⟩)
    obtain ⟨hinit, hlast⟩ : ['.', '.'] ∉ init ∧ ['.', '.'] ∉ [step] := by
      rwa [List.mem_append, not_or] at hupAll
    have hmake := makeDirectory_of_file hl hp hsegments hstep hinit
      (fun h => hlast (h ▸ List.mem_singleton_self step)) hne hfile habove
    rw [← hsegments] at hupAll
    rw [← hfilter, ← hsegments] at habove
    apply makeDirectories_of_error hp hmake ?_ (isDirectory_of_file hl hp hupAll hne hfile habove)
    split
    · exact FileError.noConfusion
    · exact FileError.noConfusion

variable (hl : l.WellFormed) (hp : p.IsDirect)
include hl hp

/-- Behind a file nothing is written. -/
theorem write_of_file (habove : above <+: p.steps) (hne : above ≠ p.steps)
    (hfile : l.disk.get? above = some (.file content)) (text : Text) :
    l.write p text =
      (l, .error (if above = p.steps.dropLast then .alreadyExists else .notADirectory)) := by
  obtain ⟨init, name, hsegments, hname, hup, hsteps⟩ := hp.exists_split
  have hstep : Path.isNullSegment name = false :=
    Path.isNullSegment_eq_false_iff.mpr ⟨hname.1, hname.2.1⟩
  rw [hsteps] at habove hne ⊢
  rw [List.dropLast_concat]
  have hmake := makeDirectories_of_file hl.tree (Path.ladder_parents hp.absolute hsegments hstep)
    (fun h => hup (List.mem_filter.mp h).1)
    ((List.prefix_concat_iff.mp habove).resolve_left hne) hfile
  unfold write
  rw [hmake]

/-- A directory is not written over, and nothing has to be made on the way to it. -/
theorem write_of_directory (hdirectory : l.disk.get? p.steps = some .directory) (text : Text) :
    ∃ after, l.write p text = (after, .error .isADirectory) ∧
      ∀ q, after.disk.get? q = l.disk.get? q := by
  obtain ⟨init, name, hsegments, hname, hup, hsteps⟩ := hp.exists_split
  have hstep : Path.isNullSegment name = false :=
    Path.isNullSegment_eq_false_iff.mpr ⟨hname.1, hname.2.1⟩
  have hstraight := Disk.follow_straight (d := l.disk) hup fun front hfront => by
    rw [hsteps] at hdirectory
    exact hl.tree.get?_prefix hdirectory (hfront.trans (List.prefix_append _ [name]))
  obtain ⟨made, hmake, hwithin, hleads⟩ := makeDirectories_within
    (Path.ladder_parents hp.absolute hsegments hstep) (Disk.Within.refl l.disk)
    (Disk.follow_filter hstraight)
  have hextends := extends_makeDirectories l p.parents
  rw [hmake] at hextends
  have hsame : ∀ q, made.disk.get? q = l.disk.get? q := by
    intro q
    rcases hextends.grown q with hsame | ⟨hnone, hmade⟩
    · exact hsame
    · cases hnone.symm.trans (hwithin.directories q hmade)
  have hwrite : made.writeFile p text = .error .isADirectory := by
    unfold writeFile
    rw [site?_of_step hp.absolute hsegments hstep, Disk.follow_of_filter hleads]
    dsimp only
    rw [if_neg hname.2.2]
    change (if false = true ∨ made.disk.get? _ = some .directory then _ else _) = _
    rw [← hsteps, hsame, if_pos (Or.inr hdirectory)]
  refine ⟨made, ?_, hsame⟩
  unfold write
  rw [hmake]
  dsimp only
  rw [hwrite]

/-- Where no file stands on the way and no directory in the place, the file is planted. -/
theorem write_of_free (hfree : l.disk.get? p.steps ≠ some .directory)
    (hclear : ∀ above, above <+: p.steps → above ≠ p.steps → l.disk.content? above = none)
    (text : Text) :
    ∃ after, l.write p text = (after, .ok ()) ∧
      ∀ q, after.disk.get? q = (l.disk.plant p.steps (.file (.text text))).get? q := by
  obtain ⟨init, name, hsegments, hname, hup, hsteps⟩ := hp.exists_split
  generalize hdirectory : init.filter (!Path.isNullSegment ·) = directory at hsteps
  have hlast : p.steps.dropLast = directory := by rw [hsteps, List.dropLast_concat]
  have hbelow : directory <+: p.steps := hsteps ▸ List.prefix_append directory [name]
  have hshort : ¬ p.steps <+: directory := by
    intro h
    have hlength := h.length_le
    rw [hsteps, List.length_append, List.length_singleton] at hlength
    omega
  have hget := fun q => Disk.get?_withDirectories l.disk directory q
  have hstraight := Disk.follow_straight (d := l.disk.withDirectories directory) hup
    fun front hfront => by
      rw [hdirectory] at hfront
      have hnofile := hclear front (hfront.trans hbelow) fun h => hshort (h ▸ hfront)
      rw [hget]
      cases hthere : l.disk.get? front with
      | none => rw [if_pos ⟨hfront, rfl⟩]
      | some entry =>
        rw [if_neg fun h => Option.some_ne_none _ h.2]
        cases entry with
        | directory => rfl
        | file content => exact absurd hthere (Disk.content?_eq_none_iff.mp hnofile content)
  rw [hdirectory] at hstraight
  have hplace : (l.disk.withDirectories directory).get? (directory ++ [name]) ≠
      some .directory := by
    rw [hget, ← hsteps, if_neg fun h => hshort h.1]
    exact hfree
  obtain ⟨made, hmake, hmade, hpoints, hwrite⟩ :=
    write_within text hp.absolute hsegments hname
      (Disk.within_withDirectories l.disk directory) hstraight hplace
  refine ⟨_, hwrite, ?_⟩
  have hextends := extends_makeDirectories l p.parents
  rw [hmake] at hextends
  intro q
  unfold Disk.plant
  rw [hlast, ← hsteps]
  by_cases hq : q = p.steps
  · rw [hq, Disk.get?_put_self _ _ hp.steps_ne_nil, Disk.get?_put_self _ _ hp.steps_ne_nil]
  rw [Disk.get?_put_of_ne _ _ hq, Disk.get?_put_of_ne _ _ hq]
  -- The directories that have been made are those on the way.
  rcases hextends.grown q with hsame | ⟨-, hnew⟩
  · rw [hsame, hget]
    split
    · rename_i h
      have hway := (hextends.wellFormed hl).get?_parent hpoints
      rw [List.dropLast_concat] at hway
      rw [← hsame]
      exact (hextends.wellFormed hl).tree.get?_prefix hway.2 h.1
    · rfl
  · rw [hnew, hmade.directories q hnew]

/-- What a write comes to is decided by what is at its place and on the way there. If nothing is in
its way, the file is planted at this place, and otherwise all stays as it is. -/
theorem write_of_isDirect (text : Text) :
    ∃ after, l.write p text = (after, match l.disk.obstacle? p.steps with
        | some e => .error e
        | none => .ok ()) ∧
      ∀ q, after.disk.get? q = match l.disk.obstacle? p.steps with
        | some _ => l.disk.get? q
        | none => (l.disk.plant p.steps (.file (.text text))).get? q := by
  rcases l.disk.obstacle?_cases p.steps with
    ⟨above, content, habove, hne, hfile, hobstacle⟩ | ⟨hclear, hobstacle⟩
  · rw [hobstacle]
    exact ⟨l, write_of_file hl hp habove hne hfile text, fun q => rfl⟩
  · rw [hobstacle]
    by_cases hdirectory : l.disk.get? p.steps = some .directory
    · rw [if_pos hdirectory]
      exact write_of_directory hl hp hdirectory text
    · rw [if_neg hdirectory]
      exact write_of_free hl hp hdirectory hclear text

end Writing

end LocalFiles

end TestScaffold
