import TestScaffold.Proofs.Path.Steps
import TestScaffold.Source.Location

/-!
Spellings of one path. What is cut off a path, joined to it or read off it has components that are
determined by the components of the path, so it does not matter how the path is written.
-/

namespace TestScaffold

namespace Path

/-- The components of a path that is seen from another one. A leading dot counts only where
nothing is in front of it. -/
def joined (above : List Component) : List Component → List Component
  | .root :: below => .root :: below
  | .current :: below => if above = [] then .current :: below else above ++ below
  | below => above ++ below

/-- The components of the path above; there is none above a root and above the empty path. -/
def outer (components : List Component) : Option (List Component) :=
  if components = [] ∨ components = [.root] then none else some components.dropLast

section

variable {p q : Path}

theorem rel_of_map_eq {a b : Option Path} (h : a.map components = b.map components) :
    Option.Rel (fun p q => p.components = q.components) a b := by
  cases a with
  | none =>
    cases b with
    | none => exact .none
    | some q => cases h
  | some p =>
    cases b with
    | none => cases h
    | some q => exact .some (Option.some.inj h)

theorem components_eq (p : Path) : p.components = p.layout.anchor.components ++ named p.segments := by
  have hanchor : named p.layout.anchor.segments = [] := by
    cases p.layout.anchor <;> rfl
  have hsegments : named p.segments = named p.layout.anchor.segments ++ named p.layout.segments := by
    rw [segments_layout]
    exact List.filterMap_append
  rw [hsegments, hanchor, List.nil_append]
  rfl

theorem components_eq_nil_iff : p.components = [] ↔ p.text = [] := by
  constructor
  · intro h
    by_contra hne
    obtain ⟨hanchor, hsegments⟩ := List.append_eq_nil_iff.mp h
    have hnothing : p.layout.anchor = .nothing := by
      cases hcase : p.layout.anchor with
      | nothing => rfl
      | root => rw [hcase] at hanchor; cases hanchor
      | current => rw [hcase] at hanchor; cases hanchor
    -- Without an anchor the first segment is a component.
    cases hlist : p.layout.segments with
    | nil =>
      have hfields := segments_layout p
      rw [hnothing, hlist] at hfields
      exact List.splitOn_ne_nil '/' p.text hfields
    | cons s segments =>
      have hfirst := first_of_nothing hnothing hne (s := s) (by rw [hlist]; rfl)
      rw [hlist] at hsegments
      have hnone := (List.filterMap_eq_nil_iff.mp hsegments) s List.mem_cons_self
      unfold isNullSegment at hfirst
      rw [hnone] at hfirst
      cases hfirst
  · intro h
    obtain ⟨text⟩ := p
    obtain rfl : text = [] := h
    rfl

/-- What a path starts with stays when something is written after a slash. -/
theorem anchor_append_slash {t : Text} (u : Text) (h : t ≠ []) :
    (layout ⟨t ++ '/' :: u⟩).anchor = (layout ⟨t⟩).anchor := by
  cases t with
  | nil => exact absurd rfl h
  | cons c t =>
    by_cases hroot : c = '/'
    · subst hroot
      rfl
    · by_cases hdot : c = '.'
      · subst hdot
        cases t with
        | nil => rfl
        | cons b t =>
          by_cases hslash : b = '/'
          · subst hslash
            rfl
          · simp [layout, hslash]
      · simp [layout, hroot, hdot]

theorem anchor_join (hp : p.text ≠ []) (hq : q.isAbsolute = false) :
    (p.join q).layout.anchor = p.layout.anchor := by
  unfold join
  rw [hq]
  simp only [Bool.false_eq_true, if_false, hp, false_or]
  split
  · rename_i hend
    obtain ⟨start, hstart⟩ := List.getLast?_eq_some_iff.mp hend
    obtain ⟨text⟩ := p
    obtain rfl : text = start ++ ['/'] := hstart
    rw [List.append_assoc, List.singleton_append]
    by_cases hempty : start = []
    · subst hempty
      rfl
    · exact (anchor_append_slash q.text hempty).trans (anchor_append_slash [] hempty).symm
  · exact anchor_append_slash q.text hp

theorem components_eq_append_steps (p : Path) :
    p.components = p.layout.anchor.components ++ p.steps.map stepComponent := by
  rw [components_eq, named_eq_map]
  rfl

theorem joined_nil (below : List Component) : joined [] below = below := by
  unfold joined
  split <;> rfl

theorem joined_steps (above : List Component) (steps : List Text) :
    joined above (steps.map stepComponent) = above ++ steps.map stepComponent := by
  cases steps with
  | nil => rfl
  | cons step steps =>
    rw [List.map_cons]
    unfold stepComponent
    split <;> rfl

/-- The components of a joined path are those of the two, joined. -/
theorem components_join (p q : Path) :
    (p.join q).components = joined p.components q.components := by
  cases hq : q.isAbsolute with
  | true =>
    have hjoin : p.join q = q := by
      unfold join
      rw [hq, if_pos rfl]
    rw [hjoin, components_of_absolute hq]
    rfl
  | false =>
    by_cases hp : p.text = []
    · have hjoin : p.join q = q := by
        unfold join
        simp only [hq, Bool.false_eq_true, if_false, hp, true_or, if_true, List.nil_append]
      rw [hjoin, components_eq_nil_iff.mpr hp, joined_nil]
    · have hcomponents := components_eq_nil_iff.not.mpr hp
      rw [components_eq_append_steps (p.join q), anchor_join hp hq, steps_join p hq,
        List.map_append, ← List.append_assoc, ← components_eq_append_steps,
        components_eq_append_steps q]
      cases hanchor : q.layout.anchor with
      | nothing => exact (joined_steps _ _).symm
      | current => exact (if_neg hcomponents).symm
      | root =>
        -- Only absolute paths start at the root.
        unfold layout at hanchor
        split at hanchor
        · rename_i t ht
          rw [isAbsolute_iff.mpr ⟨t, ht⟩] at hq
          cases hq
        · cases hanchor
        · cases hanchor
        · cases hanchor

/-- The beginning of a path has the components of its anchor and of the segments that are kept. -/
theorem components_path_of_isPrefix {front : List Text} (h : front <+: p.layout.segments) :
    (Layout.path ⟨p.layout.anchor, front⟩).components =
      p.layout.anchor.components ++ named front := by
  have hslash : ∀ s ∈ front, '/' ∉ s := by
    intro s hs
    exact not_slash_mem_of_mem_segments (mem_segments_of_mem_layout (h.subset hs))
  cases hanchor : p.layout.anchor with
  | root => exact components_path_root hslash
  | current => exact components_path_current hslash
  | nothing =>
    by_cases hempty : p.text = []
    · have hsegments : p.layout.segments = [[]] := by
        unfold layout
        rw [hempty]
        rfl
      rw [hsegments] at h
      rcases List.prefix_cons_iff.mp h with rfl | ⟨back, rfl, hback⟩
      · rfl
      · obtain rfl := List.prefix_nil.mp hback
        rfl
    · apply components_path_nothing hslash
      intro s hs
      apply first_of_nothing hanchor hempty
      obtain ⟨back, hback⟩ := h
      rw [← hback, List.head?_append, hs]
      rfl

theorem components_parent? (p : Path) : p.parent?.map components = outer p.components := by
  have hsplit : p.layout.segments =
      (p.layout.segments.reverse.dropWhile isNullSegment).reverse ++
        (p.layout.segments.reverse.takeWhile isNullSegment).reverse := by
    rw [← List.reverse_append, List.takeWhile_append_dropWhile, List.reverse_reverse]
  have hnamed : named p.layout.segments =
      named (p.layout.segments.reverse.dropWhile isNullSegment).reverse :=
    (named_trimSegments p.layout.segments).symm
  have hcomponents : p.components = p.layout.anchor.components ++ named p.layout.segments := rfl
  unfold parent? parents
  rw [List.head?_map, head?_parentsOf, hcomponents, hnamed]
  cases hdrop : p.layout.segments.reverse.dropWhile isNullSegment with
  | nil =>
    cases p.layout.anchor <;> rfl
  | cons last above =>
    have hlast : isNullSegment last = false := by
      have hnot := List.head?_dropWhile_not isNullSegment p.layout.segments.reverse
      rw [hdrop] at hnot
      simpa using hnot
    have hfront : trimSegments above.reverse <+: p.layout.segments := by
      rw [hsplit, hdrop, List.reverse_cons, List.append_assoc]
      exact (trimSegments_isPrefix above.reverse).trans (List.prefix_append _ _)
    have hstep : named [last] = [stepComponent last] := by
      rw [named_eq_map, List.filter_cons_of_pos (by simp [hlast])]
      rfl
    have hlist : named (last :: above).reverse = named above.reverse ++ [stepComponent last] := by
      rw [List.reverse_cons, ← hstep]
      exact List.filterMap_append
    have hname : stepComponent last ≠ .root := by
      unfold stepComponent
      split <;> simp
    have hinner : ¬ (p.layout.anchor.components ++ named above.reverse ++ [stepComponent last] = [] ∨
        p.layout.anchor.components ++ named above.reverse ++ [stepComponent last] = [.root]) := by
      rintro (h | h)
      · exact List.append_ne_nil_of_right_ne_nil _ (List.cons_ne_nil _ _) h
      · obtain ⟨-, h⟩ := List.append_inj' (h.trans (List.nil_append [Component.root]).symm) rfl
        exact hname (List.cons.inj h).1
    rw [hlist, ← List.append_assoc]
    unfold outer
    rw [if_neg hinner, List.dropLast_concat, ← named_trimSegments above.reverse,
      ← components_path_of_isPrefix hfront]
    rfl

theorem components_under?_eq (p base : Path) :
    (p.under? base).map components =
      if base.components.isPrefixOf p.components then
        some (p.components.drop base.components.length)
      else none := by
  cases hunder : p.under? base with
  | none =>
    have hnot : ¬ base.components.isPrefixOf p.components = true := by
      intro hstarts
      unfold under? at hunder
      rw [show p.startsWith base = true from hstarts, if_pos rfl] at hunder
      split at hunder <;> cases hunder
    rw [if_neg hnot]
    rfl
  | some q =>
    have hcomponents := components_under? hunder
    rw [if_pos]
    · rw [hcomponents, List.drop_left]
      rfl
    · rw [hcomponents]
      exact List.isPrefixOf_iff_prefix.mpr (List.prefix_append _ _)

/-- A path lies under the paths that it begins with. -/
theorem under?_eq_none_iff : p.under? q = none ↔ ¬ q.components <+: p.components := by
  have hcomponents := components_under?_eq p q
  rw [← List.isPrefixOf_iff_prefix]
  constructor
  · intro hnone hbegins
    rw [hnone, if_pos hbegins] at hcomponents
    cases hcomponents
  · intro hbegins
    rw [if_neg hbegins] at hcomponents
    exact Option.map_eq_none_iff.mp hcomponents

theorem exists_under? {rest : List Component} (h : p.components = q.components ++ rest) :
    ∃ below, p.under? q = some below ∧ below.components = rest := by
  cases hunder : p.under? q with
  | none => exact absurd ⟨rest, h.symm⟩ (under?_eq_none_iff.mp hunder)
  | some below =>
    refine ⟨below, rfl, ?_⟩
    have hcomponents := components_under? hunder
    rw [h] at hcomponents
    exact (List.append_cancel_left hcomponents).symm

/-- Seen from a path, names come after its components. -/
theorem joined_names (above : List Component) (names : List Text) :
    joined above (names.map .name) = above ++ names.map .name := by
  cases names <;> rfl

/-- Above names lie all of them but the last. -/
theorem outer_names {names : List Text} (hne : names ≠ []) :
    outer (names.map .name) = some (names.dropLast.map .name) := by
  have hinner : ¬ (names.map Component.name = [] ∨ names.map Component.name = [.root]) := by
    obtain ⟨name, names, rfl⟩ := List.exists_cons_of_ne_nil hne
    simp
  unfold outer
  rw [if_neg hinner, List.map_dropLast]

end

/-- Two paths are spellings of one path. -/
def Alike (p q : Path) : Prop :=
  p.components = q.components

namespace Alike

variable {p q p' q' : Path}

theorem refl (p : Path) : p.Alike p :=
  rfl

theorem symm (h : p.Alike q) : q.Alike p :=
  Eq.symm h

theorem text_eq_nil_iff (h : p.Alike q) : p.text = [] ↔ q.text = [] := by
  rw [← components_eq_nil_iff, ← components_eq_nil_iff, show p.components = q.components from h]

theorem join (hp : p.Alike p') (hq : q.Alike q') : (p.join q).Alike (p'.join q') := by
  unfold Alike at *
  rw [components_join, components_join, hp, hq]

theorem child (h : p.Alike p') (name : Text) : (p.child name).Alike (p'.child name) :=
  h.join (refl _)

/-- What is cut off two spellings of a path is there for both or for neither, and is spelled
alike. -/
theorem under? (hp : p.Alike p') (hq : q.Alike q') :
    Option.Rel Alike (p.under? q) (p'.under? q') := by
  have h := components_under?_eq p q
  rw [show p.components = p'.components from hp, show q.components = q'.components from hq,
    ← components_under?_eq p' q'] at h
  exact rel_of_map_eq h

theorem parent? (h : p.Alike p') : Option.Rel Alike p.parent? p'.parent? := by
  apply rel_of_map_eq
  rw [components_parent?, components_parent?, show p.components = p'.components from h]

theorem fileName?_eq (h : p.Alike p') : p.fileName? = p'.fileName? := by
  unfold fileName?
  rw [show p.components = p'.components from h]

theorem file?_eq (h : p.Alike p') : p.file? = p'.file? := by
  unfold file?
  rw [h.fileName?_eq]

theorem stem?_eq (h : p.Alike p') : p.stem? = p'.stem? := by
  unfold stem?
  rw [h.file?_eq]

theorem extension_eq (h : p.Alike p') : p.extension = p'.extension := by
  unfold extension
  rw [h.file?_eq]

theorem directoryName_eq (h : p.Alike p') : p.directoryName = p'.directoryName := by
  have hparent := h.parent?
  unfold directoryName
  generalize p.parent? = above at hparent ⊢
  generalize p'.parent? = above' at hparent ⊢
  cases hparent with
  | none => rfl
  | some hparent => exact congrArg (Option.getD · []) (fileName?_eq hparent)

theorem namesWithoutExtension_eq (h : p.Alike p') :
    p.namesWithoutExtension = p'.namesWithoutExtension := by
  have hnames : p.names = p'.names := by
    unfold names
    rw [show p.components = p'.components from h]
  unfold namesWithoutExtension
  rw [hnames, h.stem?_eq]

end Alike

end Path

end TestScaffold
