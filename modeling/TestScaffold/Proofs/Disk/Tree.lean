import Mathlib.Data.List.Induction
import TestScaffold.Disk.Basic

/-!
Disks that are trees, and what following a path on them comes to. Making directories adds to a
tree and takes nothing away, so a path without `..` leads to a file afterwards only if it led
there before.
-/

namespace TestScaffold

namespace Disk

/-- Every place is listed once, and every entry lies in a directory. -/
structure IsTree (d : Disk) : Prop where
  nodup : (d.entries.map Prod.fst).Nodup
  ne_root : ∀ x ∈ d.entries, x.1 ≠ []
  parent : ∀ place, place ≠ [] → d.get? place ≠ none →
    d.get? place.dropLast = some .directory

/-- `after` is `before` with more directories. -/
def Grown (before after : Disk) : Prop :=
  ∀ place, after.get? place = before.get? place ∨
    (before.get? place = none ∧ after.get? place = some .directory)

theorem get?_root (d : Disk) : d.get? [] = some .directory := by
  unfold get?
  rw [if_pos rfl]

theorem get?_put_self (d : Disk) {place : Place} (entry : Entry) (hplace : place ≠ []) :
    (d.put place entry).get? place = some entry := by
  rw [get?_put, if_neg hplace, if_pos rfl]

theorem get?_put_of_ne (d : Disk) {place other : Place} (entry : Entry) (h : other ≠ place) :
    (d.put place entry).get? other = d.get? other := by
  rw [get?_put, if_neg h]
  split
  · rename_i hroot
    rw [hroot, get?_root]
  · rfl

theorem Grown.refl (d : Disk) : d.Grown d := by
  intro place
  exact Or.inl rfl

theorem Grown.trans {a b c : Disk} (hab : a.Grown b) (hbc : b.Grown c) : a.Grown c := by
  intro place
  rcases hbc place with hc | ⟨hb, hc⟩
  · rw [hc]
    exact hab place
  · rcases hab place with ha | ⟨-, ha⟩
    · exact Or.inr ⟨ha ▸ hb, hc⟩
    · rw [hb] at ha
      cases ha

theorem Grown.get?_of_ne_none {before after : Disk} {place : Place} (h : before.Grown after)
    (hplace : before.get? place ≠ none) : after.get? place = before.get? place := by
  rcases h place with heq | ⟨hnone, -⟩
  · exact heq
  · exact absurd hnone hplace

theorem Grown.get?_of_file {before after : Disk} {place : Place} {content : Content}
    (h : before.Grown after) (hfile : after.get? place = some (.file content)) :
    before.get? place = some (.file content) := by
  rcases h place with heq | ⟨-, hdir⟩
  · rw [← heq, hfile]
  · rw [hdir] at hfile
    cases hfile

theorem grown_put {d : Disk} {place : Place} (hplace : d.get? place = none) :
    d.Grown (d.put place .directory) := by
  intro other
  by_cases heq : other = place
  · have hroot : place ≠ [] := by
      rintro rfl
      cases (get?_root d).symm.trans hplace
    rw [heq, get?_put_self _ _ hroot]
    exact Or.inr ⟨hplace, rfl⟩
  · exact Or.inl (get?_put_of_ne _ _ heq)

theorem lookup_of_mem {entries : List (Place × Entry)} {place : Place} {entry : Entry}
    (hnodup : (entries.map Prod.fst).Nodup) (hmem : (place, entry) ∈ entries) :
    entries.lookup place = some entry := by
  induction entries with
  | nil => cases hmem
  | cons x xs ih =>
    obtain ⟨key, value⟩ := x
    rw [List.map_cons, List.nodup_cons] at hnodup
    rw [List.lookup_cons]
    rcases List.mem_cons.mp hmem with heq | htail
    · obtain ⟨rfl, rfl⟩ := Prod.mk.inj heq
      rw [beq_self_eq_true]
    · have hne : (place == key) = false := by
        rw [beq_eq_false_iff_ne]
        rintro rfl
        exact hnodup.1 (List.mem_map.mpr ⟨(place, entry), htail, rfl⟩)
      rw [hne]
      exact ih hnodup.2 htail

theorem IsTree.get?_of_mem {d : Disk} {place : Place} {entry : Entry} (h : d.IsTree)
    (hmem : (place, entry) ∈ d.entries) : d.get? place = some entry := by
  unfold get?
  rw [if_neg (h.ne_root _ hmem)]
  exact lookup_of_mem h.nodup hmem

/-- A file that counts as changed is there, and its content is new. -/
theorem IsTree.get?_of_mem_changedFiles {before after : Disk} (h : after.IsTree)
    {change : Place × Content} (hmem : change ∈ before.changedFiles after) :
    after.get? change.1 = some (.file change.2) ∧
      before.get? change.1 ≠ some (.file change.2) := by
  obtain ⟨⟨place, entry⟩, hentry, hchange⟩ := List.mem_filterMap.mp hmem
  cases entry with
  | directory => cases hchange
  | file content =>
    dsimp only at hchange
    split at hchange
    · cases hchange
    · rename_i hnew
      obtain rfl := Option.some.inj hchange
      refine ⟨h.get?_of_mem hentry, ?_⟩
      intro hsame
      apply hnew
      unfold content?
      rw [hsame]

/-- No file has changed when each holds what it held before. -/
theorem IsTree.changedFiles_eq_nil {before after : Disk} (h : after.IsTree)
    (hsame : ∀ place, after.content? place = before.content? place) :
    before.changedFiles after = [] := by
  unfold changedFiles
  rw [List.filterMap_eq_nil_iff]
  rintro ⟨place, entry⟩ hentry
  cases entry with
  | directory => rfl
  | file content =>
    have hthere := hsame place
    unfold content? at hthere
    rw [h.get?_of_mem hentry] at hthere
    exact if_pos hthere.symm

theorem isTree_of_entries {d : Disk} (hnodup : (d.entries.map Prod.fst).Nodup)
    (hentries : ∀ x ∈ d.entries, x.1 ≠ [] ∧ d.get? x.1.dropLast = some .directory) :
    d.IsTree where
  nodup := hnodup
  ne_root := fun x hx => (hentries x hx).1
  parent := by
    intro place hroot hthere
    unfold get? at hthere
    rw [if_neg hroot] at hthere
    obtain ⟨entry, hlookup⟩ := Option.ne_none_iff_exists'.mp hthere
    obtain ⟨before, after, hentry, -⟩ := List.lookup_eq_some_iff.mp hlookup
    have hmem : (place, entry) ∈ d.entries := by
      rw [hentry]
      simp
    exact (hentries _ hmem).2

/-- A tree stays one when an entry is put into a directory, unless it is a file in the place of a
directory. -/
theorem IsTree.put {d : Disk} {place : Place} {entry : Entry} (h : d.IsTree) (hplace : place ≠ [])
    (hparent : d.get? place.dropLast = some .directory)
    (hentry : d.get? place ≠ some .directory ∨ entry = .directory) :
    (d.put place entry).IsTree where
  nodup := by
    change (place :: (d.entries.filter (·.1 ≠ place)).map Prod.fst).Nodup
    rw [List.nodup_cons]
    refine ⟨?_, (List.Sublist.map Prod.fst List.filter_sublist).nodup h.nodup⟩
    intro hmem
    obtain ⟨x, hx, hxp⟩ := List.mem_map.mp hmem
    simpa [hxp] using (List.mem_filter.mp hx).2
  ne_root := by
    intro x hx
    rcases List.mem_cons.mp hx with rfl | hold
    · exact hplace
    · exact h.ne_root x (List.mem_filter.mp hold).1
  parent := by
    intro other hother hthere
    rw [get?_put] at hthere ⊢
    by_cases htop : other.dropLast = []
    · rw [if_pos htop]
    rw [if_neg htop]
    by_cases habove : other.dropLast = place
    · -- An entry below the one that is put was there before, so this is a directory still.
      have hne : other ≠ place := by
        intro heq
        have hlength := congrArg List.length (habove.trans heq.symm)
        have hpos := List.length_pos_iff.mpr hother
        rw [List.length_dropLast] at hlength
        omega
      rw [if_neg hother, if_neg hne] at hthere
      have hdir := h.parent other hother hthere
      rw [habove] at hdir
      rcases hentry with hfree | rfl
      · exact absurd hdir hfree
      · rw [if_pos habove]
    rw [if_neg habove]
    by_cases heq : other = place
    · rw [heq]
      exact hparent
    · rw [if_neg hother, if_neg heq] at hthere
      exact h.parent other hother hthere

/-- The way to an entry of a tree leads through directories. -/
theorem IsTree.get?_above {d : Disk} (h : d.IsTree) {place rest : Place} (hrest : rest ≠ [])
    (hthere : d.get? (place ++ rest) ≠ none) : d.get? place = some .directory := by
  -- From the entry upwards: its directory is there, so the one above that is, and so on.
  induction rest using List.reverseRecOn with
  | nil => exact absurd rfl hrest
  | append_singleton rest last ih =>
    have hne : place ++ (rest ++ [last]) ≠ [] := by simp
    have hdir := h.parent _ hne hthere
    rw [← List.append_assoc, List.dropLast_concat] at hdir
    by_cases hnil : rest = []
    · rw [hnil, List.append_nil] at hdir
      exact hdir
    · apply ih hnil
      rw [hdir]
      exact Option.some_ne_none _

/-- Whether a segment of a path names an entry, and does not only say where to look. -/
def IsName (segment : Text) : Prop :=
  segment ≠ [] ∧ segment ≠ ['.'] ∧ segment ≠ ['.', '.']

theorem follow_null (d : Disk) (place : Place) {segment : Text} (segments : List Text)
    (h : segment = [] ∨ segment = ['.']) :
    d.follow place .directory (segment :: segments) = d.follow place .directory segments := by
  simp only [follow, if_pos h]

theorem follow_name (d : Disk) (place : Place) {segment : Text} (segments : List Text)
    (h : IsName segment) :
    d.follow place .directory (segment :: segments) =
      match d.get? (place ++ [segment]) with
      | none => .error .notFound
      | some entry => d.follow (place ++ [segment]) entry segments := by
  obtain ⟨hempty, hdot, hdots⟩ := h
  have hnull : ¬ (segment = [] ∨ segment = ['.']) := by
    rintro (rfl | rfl)
    · exact hempty rfl
    · exact hdot rfl
  exact (if_neg hnull).trans (if_neg hdots)

theorem follow_up (d : Disk) (place : Place) (segments : List Text) :
    d.follow place .directory (['.', '.'] :: segments) =
      d.follow place.dropLast .directory segments := by
  simp [follow]

/-- A path is followed to the end of one part of it, and on from there. -/
theorem follow_append (d : Disk) (place : Place) (entry : Entry) (xs ys : List Text) :
    d.follow place entry (xs ++ ys) =
      (d.follow place entry xs).bind fun x => d.follow x.1 x.2 ys := by
  induction xs generalizing place entry with
  | nil => rfl
  | cons segment xs ih =>
    cases entry with
    | file content => rfl
    | directory =>
      rw [List.cons_append]
      simp only [follow]
      split
      · exact ih place .directory
      · split
        · exact ih place.dropLast .directory
        · cases d.get? (place ++ [segment]) with
          | none => rfl
          | some entry => exact ih (place ++ [segment]) entry

theorem IsTree.get?_of_follow {d : Disk} (h : d.IsTree) {place q : Place} {entry e : Entry}
    {segments : List Text} (hplace : d.get? place = some entry)
    (hfollow : d.follow place entry segments = .ok (q, e)) : d.get? q = some e := by
  induction segments generalizing place entry with
  | nil =>
    simp only [follow, Except.ok.injEq, Prod.mk.injEq] at hfollow
    obtain ⟨rfl, rfl⟩ := hfollow
    exact hplace
  | cons segment segments ih =>
    cases entry with
    | file content => cases hfollow
    | directory =>
      simp only [follow] at hfollow
      split at hfollow
      · exact ih hplace hfollow
      · split at hfollow
        · refine ih ?_ hfollow
          by_cases hroot : place = []
          · rw [hroot]
            exact get?_root d
          · -- A `..` leads to the directory above, which a tree has.
            apply h.parent place hroot
            rw [hplace]
            exact Option.some_ne_none _
        · split at hfollow
          · cases hfollow
          · rename_i hthere
            exact ih hthere hfollow

theorem prefix_of_follow {d : Disk} {place q : Place} {entry e : Entry} {segments : List Text}
    (hup : ['.', '.'] ∉ segments) (hfollow : d.follow place entry segments = .ok (q, e)) :
    place <+: q := by
  induction segments generalizing place entry with
  | nil =>
    simp only [follow, Except.ok.injEq, Prod.mk.injEq] at hfollow
    exact hfollow.1 ▸ List.prefix_rfl
  | cons segment segments ih =>
    rw [List.mem_cons, not_or] at hup
    cases entry with
    | file content => cases hfollow
    | directory =>
      simp only [follow, if_neg (Ne.symm hup.1)] at hfollow
      split at hfollow
      · exact ih hup.2 hfollow
      · split at hfollow
        · cases hfollow
        · exact (List.prefix_append place [segment]).trans (ih hup.2 hfollow)

/-- A path that leads to a file ends in the name of that file, in a directory that the rest of
the path leads to. -/
theorem name_of_follow_file {d : Disk} {place q : Place} {content : Content}
    {segments : List Text}
    (hfollow : d.follow place .directory segments = .ok (q, .file content)) :
    ∃ init name directory, segments = init ++ [name] ∧ IsName name ∧
      d.follow place .directory init = .ok (directory, .directory) ∧ q = directory ++ [name] ∧
      d.get? q = some (.file content) := by
  induction segments using List.reverseRecOn with
  | nil => simp [follow] at hfollow
  | append_singleton init name _ =>
    rw [follow_append] at hfollow
    rcases hinit : d.follow place .directory init with e | ⟨directory, entry⟩
    · rw [hinit] at hfollow
      cases hfollow
    · rw [hinit] at hfollow
      change d.follow directory entry [name] = .ok (q, .file content) at hfollow
      cases entry with
      | file c => cases hfollow
      | directory =>
        have hname : IsName name := by
          refine ⟨?_, ?_, ?_⟩
          · rintro rfl
            simp [follow] at hfollow
          · rintro rfl
            simp [follow] at hfollow
          · rintro rfl
            rw [follow_up] at hfollow
            cases hfollow
        rw [follow_name d directory [] hname] at hfollow
        cases hthere : d.get? (directory ++ [name]) with
        | none =>
          rw [hthere] at hfollow
          cases hfollow
        | some entry =>
          rw [hthere] at hfollow
          obtain ⟨rfl, rfl⟩ := Prod.mk.inj (Except.ok.inj hfollow)
          exact ⟨init, name, directory, rfl, hname, hinit, rfl, hthere⟩

/-- A path without `..` that leads to a file of a tree on another disk leads there on the tree too:
the file is there, and so are the directories above it. -/
theorem IsTree.follow_file {d other : Disk} (htree : d.IsTree) {place q : Place} {content : Content}
    {segments : List Text} (hup : ['.', '.'] ∉ segments)
    (hfollow : other.follow place .directory segments = .ok (q, .file content))
    (hfile : d.get? q = some (.file content)) :
    d.follow place .directory segments = .ok (q, .file content) := by
  -- Each directory on the way lies above the file.
  induction segments generalizing place with
  | nil => simp [follow] at hfollow
  | cons segment segments ih =>
    rw [List.mem_cons, not_or] at hup
    by_cases hnull : segment = [] ∨ segment = ['.']
    · rw [follow_null _ _ _ hnull] at hfollow ⊢
      exact ih hup.2 hfollow
    have hname : IsName segment := ⟨fun h => hnull (Or.inl h), fun h => hnull (Or.inr h), Ne.symm hup.1⟩
    rw [follow_name _ _ _ hname] at hfollow ⊢
    cases hother : other.get? (place ++ [segment]) with
    | none =>
      rw [hother] at hfollow
      cases hfollow
    | some entry =>
      rw [hother] at hfollow
      obtain ⟨rest, rfl⟩ := prefix_of_follow hup.2 hfollow
      cases entry with
      | file c =>
        cases segments with
        | nil =>
          obtain rfl : rest = [] :=
            List.self_eq_append_right.mp (Prod.mk.inj (Except.ok.inj hfollow)).1
          rw [List.append_nil] at hfile ⊢
          rw [hfile]
          rfl
        | cons x xs => cases hfollow
      | directory =>
        have hrest : rest ≠ [] := by
          rintro rfl
          obtain ⟨-, -, -, -, -, -, -, hthere⟩ := name_of_follow_file hfollow
          rw [List.append_nil, hother] at hthere
          cases hthere
        have hdirectory : d.get? (place ++ [segment]) = some .directory := by
          apply htree.get?_above hrest
          rw [hfile]
          exact Option.some_ne_none _
        rw [hdirectory]
        exact ih hup.2 hfollow

/-- When a path without `..` leads to a file once directories have been made, it has led there
before. -/
theorem Grown.follow_file {before after : Disk} (hgrown : before.Grown after) (htree : before.IsTree)
    {place q : Place} {content : Content} {segments : List Text} (hup : ['.', '.'] ∉ segments)
    (hfollow : after.follow place .directory segments = .ok (q, .file content)) :
    before.follow place .directory segments = .ok (q, .file content) := by
  obtain ⟨-, -, -, -, -, -, -, hfile⟩ := name_of_follow_file hfollow
  exact htree.follow_file hup hfollow (hgrown.get?_of_file hfile)

end Disk

end TestScaffold
