import TestScaffold.Proofs.Disk.Succession

/-!
The names of entries. A path to a directory that is continued by the names of what lies below it
points there, so every entry of a tree is found under a path that is put together in this way.
-/

namespace TestScaffold

namespace Disk

/-- The entries of the disk have names that can stand between slashes. -/
def Named (d : Disk) : Prop :=
  ∀ x ∈ d.entries, ∀ name ∈ x.1, IsName name ∧ '/' ∉ name

instance (name : Text) : Decidable (IsName name) :=
  inferInstanceAs (Decidable (_ ∧ _))

instance (d : Disk) : Decidable d.Named :=
  inferInstanceAs (Decidable (∀ x ∈ d.entries, ∀ name ∈ x.1, IsName name ∧ '/' ∉ name))

theorem Named.isName_of_get? {d : Disk} {place : Place} (h : d.Named)
    (hthere : d.get? place ≠ none) : ∀ name ∈ place, IsName name ∧ '/' ∉ name := by
  unfold get? at hthere
  split at hthere
  · rename_i hroot
    rw [hroot]
    exact fun name hname => absurd hname List.not_mem_nil
  · obtain ⟨entry, hlookup⟩ := Option.ne_none_iff_exists'.mp hthere
    obtain ⟨before, after, hentry, -⟩ := List.lookup_eq_some_iff.mp hlookup
    apply h (place, entry)
    rw [hentry]
    exact List.mem_append_right before List.mem_cons_self

theorem IsName.isNullSegment_eq {name : Text} (h : IsName name) :
    Path.isNullSegment name = false :=
  Path.isNullSegment_eq_false_iff.mpr ⟨h.1, h.2.1⟩

theorem IsName.ofSegment?_eq {name : Text} (h : IsName name) :
    Path.Component.ofSegment? name = some (.name name) := by
  unfold Path.Component.ofSegment?
  rw [if_neg, if_neg h.2.2]
  rintro (hempty | hdot)
  · exact h.1 hempty
  · exact h.2.1 hdot

end Disk

namespace LocalFiles

variable {l : LocalFiles} {p : Path} {top place : Place} {name : Text} {names : List Text}

/-- The path of a name in a directory points to the entry of that name. -/
theorem pointsTo_child (hfind : l.find p = .ok (place, .directory)) (hname : Disk.IsName name)
    (hslash : '/' ∉ name) : l.PointsTo (p.child name) (place ++ [name]) := by
  have hrelative : Path.isAbsolute ⟨name⟩ = false := by
    rw [← Bool.not_eq_true, Path.isAbsolute_iff]
    rintro ⟨t, ht⟩
    exact hslash ((show name = '/' :: t from ht) ▸ List.mem_cons_self)
  unfold find at hfind
  split at hfind
  · cases hfind
  rename_i hne
  unfold Path.child Path.join
  rw [hrelative]
  simp only [Bool.false_eq_true, if_false, hne, false_or]
  have hstart : ∀ t : Text, l.start ⟨p.text ++ t⟩ = l.start p := by
    intro t
    unfold start Path.isAbsolute
    rw [List.head?_append_of_ne_nil _ hne]
  split
  · -- The slash at the end of the directory separates the two.
    rename_i hend
    obtain ⟨front, hfront⟩ := List.getLast?_eq_some_iff.mp hend
    refine ⟨Text.fields front '/', name, place, ?_, hname, ?_, rfl⟩
    · unfold Path.segments
      rw [hfront, List.append_assoc, List.singleton_append, Text.fields_append_slash,
        Text.fields_of_not_mem hslash]
    · rw [hfront, Text.fields_append_slash, Disk.follow_append] at hfind
      rw [hstart]
      rcases hinit : l.disk.follow (l.start p) .directory (Text.fields front '/') with
        e | ⟨q, _ | content⟩
      · rw [hinit] at hfind
        cases hfind
      · rw [hinit] at hfind
        change l.disk.follow q .directory [[]] = _ at hfind
        rw [Disk.follow_null _ _ _ (Or.inl rfl)] at hfind
        exact hfind
      · rw [hinit] at hfind
        cases hfind
  · refine ⟨Text.fields p.text '/', name, place, ?_, hname, ?_, rfl⟩
    · exact (Text.fields_append_slash _ _).trans (by rw [Text.fields_of_not_mem hslash])
    · rw [hstart]
      exact hfind

/-- An entry below a directory is pointed to by the path of the directory with the names that lead
from there to the entry. -/
theorem pointsTo_descend (htree : l.disk.IsTree) (hfind : l.find p = .ok (top, .directory))
    (hne : names ≠ []) (hnames : ∀ x ∈ names, Disk.IsName x ∧ '/' ∉ x)
    (hthere : l.disk.get? (top ++ names) ≠ none) :
    l.PointsTo (names.foldl Path.child p) (top ++ names) := by
  induction names generalizing p top with
  | nil => exact absurd rfl hne
  | cons name names ih =>
    obtain ⟨hname, hslash⟩ := hnames name List.mem_cons_self
    have hchild := pointsTo_child hfind hname hslash
    rw [List.foldl_cons]
    by_cases hlast : names = []
    · subst hlast
      exact hchild
    · -- What lies above the entry is a directory, from which the other names lead on.
      rw [List.append_cons] at hthere ⊢
      have hdirectory := htree.get?_above hlast hthere
      have hfound := hchild.find
      rw [hdirectory] at hfound
      exact ih hfound hlast (fun x hx => hnames x (List.mem_cons_of_mem name hx)) hthere

theorem fileName?_descend (p : Path) (init : List Text) (hname : Disk.IsName name)
    (hslash : '/' ∉ name) : ((init ++ [name]).foldl Path.child p).fileName? = some name := by
  rw [List.foldl_append]
  exact Path.fileName?_child _ hslash hname.ofSegment?_eq

end LocalFiles

end TestScaffold
