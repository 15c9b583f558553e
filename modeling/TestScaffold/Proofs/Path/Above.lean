import TestScaffold.Proofs.Path.Spelling

/-!
The paths above a path, by their components: all beginnings of its components but for themselves,
nearest first, down to the root of an absolute path and to the empty path otherwise.
-/

namespace TestScaffold

section

variable {α : Type}

/-- The beginnings of a list, but for the list itself; the longest first. -/
def properPrefixes : List α → List (List α)
  | [] => []
  | x :: xs => (properPrefixes xs).map (x :: ·) ++ [[]]

theorem mem_properPrefixes_iff {front xs : List α} :
    front ∈ properPrefixes xs ↔ front <+: xs ∧ front ≠ xs := by
  induction xs generalizing front with
  | nil => simp [properPrefixes]
  | cons x xs ih =>
    cases front with
    | nil => simp [properPrefixes]
    | cons y front =>
      simp only [properPrefixes, List.mem_append, List.mem_map, List.mem_singleton,
        List.cons.injEq, reduceCtorEq, or_false, ih, List.cons_prefix_cons, ne_eq]
      constructor
      · rintro ⟨a, ⟨hfront, hne⟩, rfl, rfl⟩
        exact ⟨⟨rfl, hfront⟩, fun h => hne h.2⟩
      · rintro ⟨⟨rfl, hfront⟩, hne⟩
        exact ⟨front, ⟨hfront, fun h => hne ⟨rfl, h⟩⟩, rfl, rfl⟩

theorem properPrefixes_concat (xs : List α) (x : α) :
    properPrefixes (xs ++ [x]) = xs :: properPrefixes xs := by
  induction xs with
  | nil => rfl
  | cons y xs ih =>
    rw [List.cons_append, properPrefixes, ih]
    rfl

/-- Each of the beginnings begins with those after it. -/
theorem pairwise_properPrefixes (xs : List α) :
    (properPrefixes xs).Pairwise fun a b => b <+: a ∧ b ≠ a := by
  induction xs with
  | nil => exact .nil
  | cons x xs ih =>
    apply List.pairwise_append.mpr
    refine ⟨?_, List.pairwise_singleton _ _, ?_⟩
    · apply List.pairwise_map.mpr
      refine ih.imp ?_
      rintro a b ⟨hbegins, hne⟩
      exact ⟨List.cons_prefix_cons.mpr ⟨rfl, hbegins⟩, fun h => hne (List.cons.inj h).2⟩
    · intro a ha b hb
      obtain ⟨c, -, rfl⟩ := List.mem_map.mp ha
      rw [List.mem_singleton.mp hb]
      exact ⟨List.nil_prefix, (List.cons_ne_nil x c).symm⟩

end

namespace Path

variable {p q : Path}

theorem isAbsolute_iff_anchor : p.isAbsolute = true ↔ p.layout.anchor = .root := by
  constructor
  · intro hp
    obtain ⟨t, ht⟩ := isAbsolute_iff.mp hp
    unfold layout
    rw [ht]
    rfl
  · intro hanchor
    cases hp : p.isAbsolute with
    | true => rfl
    | false =>
      unfold layout at hanchor
      split at hanchor
      · rename_i t ht
        exact absurd (isAbsolute_iff.mpr ⟨t, ht⟩) (ne_true_of_eq_false hp)
      · cases hanchor
      · cases hanchor
      · cases hanchor

/-- The paths above the beginning of a path that `reversed` holds, by their components. -/
theorem map_components_parentsOf {reversed : List Text}
    (hfront : reversed.reverse <+: p.layout.segments) :
    (Layout.parentsOf p.layout.anchor reversed).map (fun l => l.path.components) =
      (properPrefixes (named reversed.reverse)).map (p.layout.anchor.components ++ ·) ++
        if p.layout.anchor = .current then [[]] else [] := by
  induction reversed with
  | nil => cases p.layout.anchor <;> rfl
  | cons s reversed ih =>
    rw [List.reverse_cons] at hfront ⊢
    have hinit := (List.prefix_append _ _).trans hfront
    simp only [Layout.parentsOf]
    cases hnull : isNullSegment s with
    | true =>
      have hsame : named (reversed.reverse ++ [s]) = named reversed.reverse := by
        unfold named
        rw [List.filterMap_append, List.filterMap_cons_none (Option.isNone_iff_eq_none.mp hnull)]
        exact List.append_nil _
      rw [hsame, if_pos rfl, ih hinit]
    | false =>
      have hstep : named (reversed.reverse ++ [s]) =
          named reversed.reverse ++ [stepComponent s] := by
        rw [named_eq_map, filter_isNullSegment_concat _ hnull, List.map_append, ← named_eq_map]
        rfl
      have hnearest : (Layout.path ⟨p.layout.anchor, trimSegments reversed.reverse⟩).components =
          p.layout.anchor.components ++ named reversed.reverse := by
        rw [components_path_of_isPrefix ((trimSegments_isPrefix _).trans hinit),
          named_trimSegments]
      rw [hstep, properPrefixes_concat, if_neg Bool.false_ne_true, List.map_cons, ih hinit,
        hnearest]
      rfl

/-- The components of the paths above, nearest first. -/
theorem map_components_parents (p : Path) :
    p.parents.map components =
      (properPrefixes p.components).filter fun above => !p.isAbsolute || !above.isEmpty := by
  have hall : p.layout.segments.reverse.reverse <+: p.layout.segments := by simp
  have habove := map_components_parentsOf hall
  rw [List.reverse_reverse] at habove
  have hcomponents : p.components = p.layout.anchor.components ++ named p.layout.segments := rfl
  have habsolute : p.isAbsolute = decide (p.layout.anchor = .root) := by
    rw [Bool.eq_iff_iff, decide_eq_true_eq]
    exact isAbsolute_iff_anchor
  unfold parents
  rw [List.map_map]
  refine habove.trans ?_
  rw [hcomponents, habsolute]
  cases p.layout.anchor with
  | nothing => simp [Anchor.components]
  | root => simp [Anchor.components, properPrefixes, List.filter_map, Function.comp_def]
  | current => simp [Anchor.components, properPrefixes]

/-- Above a path lie the beginnings of its components, but for itself and, above an absolute path,
for the empty path. -/
theorem exists_mem_parents_iff {above : List Component} :
    (∃ q ∈ p.parents, q.components = above) ↔
      above <+: p.components ∧ above ≠ p.components ∧ (p.isAbsolute = true → above ≠ []) := by
  have hmem : above ∈ p.parents.map components ↔ ∃ q ∈ p.parents, q.components = above :=
    List.mem_map
  rw [← hmem, map_components_parents, List.mem_filter, mem_properPrefixes_iff, and_assoc]
  cases p.isAbsolute <;> simp

/-- Of two paths above, the farther one is a true beginning of the nearer. -/
theorem pairwise_parents (p : Path) :
    p.parents.Pairwise fun a b => b.components <+: a.components ∧ b.components ≠ a.components := by
  have hchain := (pairwise_properPrefixes p.components).filter
    (fun above => !p.isAbsolute || !above.isEmpty)
  rw [← map_components_parents, List.pairwise_map] at hchain
  exact hchain

end Path

end TestScaffold
