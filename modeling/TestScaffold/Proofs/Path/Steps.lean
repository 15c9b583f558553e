import TestScaffold.Proofs.Path.Components

/-!
The steps of a path: its segments that lead somewhere, names and `..`. Joining paths puts their
steps one after the other, and two absolute paths have the same components when they have the same
steps. Relative paths here begin with a step, as those do that are cut off under a directory.
-/

namespace TestScaffold

namespace Path

/-- The segments of a path that are components. -/
def steps (p : Path) : List Text :=
  p.segments.filter (!isNullSegment ·)

theorem isNullSegment_eq_false_iff {s : Text} :
    isNullSegment s = false ↔ s ≠ [] ∧ s ≠ ['.'] := by
  unfold isNullSegment Component.ofSegment?
  by_cases hnull : s = [] ∨ s = ['.']
  · simp [hnull, ← not_or]
  · rw [if_neg hnull, ← not_or]
    split <;> simp [hnull]

theorem isNullSegment_iff {s : Text} : isNullSegment s = true ↔ s = [] ∨ s = ['.'] := by
  rw [← Bool.not_eq_false, isNullSegment_eq_false_iff, ← not_or, not_not]

def stepComponent (step : Text) : Component :=
  if step = ['.', '.'] then .parent else .name step

theorem stepComponent_injective : Function.Injective stepComponent := by
  intro a b h
  unfold stepComponent at h
  split at h
  · rename_i ha
    split at h
    · rename_i hb
      rw [ha, hb]
    · cases h
  · split at h
    · cases h
    · exact Component.name.inj h

theorem named_eq_map (segments : List Text) :
    named segments = (segments.filter (!isNullSegment ·)).map stepComponent := by
  induction segments with
  | nil => rfl
  | cons s segments ih =>
    cases hnull : isNullSegment s with
    | true =>
      rw [named_cons_of_null segments hnull, List.filter_cons_of_neg (by simp [hnull]), ih]
    | false =>
      have hcomponent : Component.ofSegment? s = some (stepComponent s) := by
        unfold isNullSegment Component.ofSegment? at hnull
        unfold Component.ofSegment? stepComponent
        split at hnull
        · cases hnull
        · rename_i hname
          rw [if_neg hname]
          split <;> rfl
      rw [List.filter_cons_of_pos (by simp [hnull]), List.map_cons, ← ih]
      exact List.filterMap_cons_some hcomponent

theorem steps_of_segments {p : Path} {segments : List Text} (h : p.segments = segments) :
    p.steps = segments.filter (!isNullSegment ·) := by
  unfold steps
  rw [h]

theorem filter_isNullSegment_concat (init : List Text) {step : Text}
    (hstep : isNullSegment step = false) :
    (init ++ [step]).filter (!isNullSegment ·) = init.filter (!isNullSegment ·) ++ [step] := by
  rw [List.filter_append, List.filter_cons_of_pos (by simp [hstep]), List.filter_nil]

/-- The start of a path is no step of it. -/
theorem steps_eq_filter_layout (p : Path) :
    p.steps = p.layout.segments.filter (!isNullSegment ·) := by
  rw [steps_of_segments (segments_layout p), List.filter_append]
  cases p.layout.anchor <;> rfl

/-- A joined path has the steps of the two. -/
theorem steps_join (p : Path) {q : Path} (hq : q.isAbsolute = false) :
    (p.join q).steps = p.steps ++ q.steps := by
  have hnull : isNullSegment [] = true := rfl
  unfold join
  rw [hq]
  simp only [Bool.false_eq_true, if_false]
  split
  · rename_i hend
    rcases hend with hempty | hslash
    · have hp : p.steps = [] := by
        unfold steps segments
        rw [hempty]
        rfl
      rw [hempty, List.nil_append, hp, List.nil_append]
    · -- The slash at the end is the one that separates the two.
      obtain ⟨start, hstart⟩ := List.getLast?_eq_some_iff.mp hslash
      have hp : p.segments = Text.fields start '/' ++ [[]] := by
        unfold segments
        rw [hstart, Text.fields_append_slash]
        rfl
      have hjoined : Path.segments ⟨p.text ++ q.text⟩ = Text.fields start '/' ++ q.segments := by
        unfold segments
        rw [hstart, List.append_assoc, List.singleton_append, Text.fields_append_slash]
      rw [steps_of_segments hp, steps_of_segments hjoined, List.filter_append, List.filter_append,
        List.filter_cons_of_neg (by simp [hnull]), List.filter_nil, List.append_nil]
      rfl
  · have hjoined : Path.segments ⟨p.text ++ '/' :: q.text⟩ = p.segments ++ q.segments :=
      Text.fields_append_slash p.text q.text
    rw [steps_of_segments hjoined, List.filter_append]
    rfl

section Absolute

variable {p q : Path}

theorem isAbsolute_iff : p.isAbsolute = true ↔ ∃ t, p.text = '/' :: t := by
  unfold isAbsolute
  rw [beq_iff_eq, List.head?_eq_some_iff]

theorem text_ne_nil_of_isAbsolute (hp : p.isAbsolute = true) : p.text ≠ [] := by
  obtain ⟨t, ht⟩ := isAbsolute_iff.mp hp
  rw [ht]
  exact List.cons_ne_nil _ _

theorem isAbsolute_join (hp : p.isAbsolute = true) (q : Path) : (p.join q).isAbsolute = true := by
  obtain ⟨t, ht⟩ := isAbsolute_iff.mp hp
  unfold join
  split
  · assumption
  · split
    · exact isAbsolute_iff.mpr ⟨t ++ q.text, by rw [ht]; rfl⟩
    · exact isAbsolute_iff.mpr ⟨t ++ '/' :: q.text, by rw [ht]; rfl⟩

theorem isAbsolute_writtenRoot (p : Path) : p.writtenRoot.isAbsolute = true := by
  unfold writtenRoot
  split <;> rfl

theorem isAbsolute_absolute {cwd : Path} (hcwd : cwd.isAbsolute = true) (p : Path) :
    (absolute cwd p).isAbsolute = true := by
  have hchildren : ∀ (names : List Text) (q : Path), q.isAbsolute = true →
      (names.foldl child q).isAbsolute = true := by
    intro names
    induction names with
    | nil => exact fun _ hq => hq
    | cons name names ih => exact fun q hq => ih _ (isAbsolute_join hq _)
  have hstart : (if p.isAbsolute then p.writtenRoot else cwd).isAbsolute = true := by
    split
    · exact isAbsolute_writtenRoot p
    · exact hcwd
  unfold absolute
  dsimp only
  split
  · exact isAbsolute_join (hchildren _ _ hstart) _
  · exact hchildren _ _ hstart

/-- Above an absolute path lie absolute paths only. -/
theorem isAbsolute_of_mem_parents (hp : p.isAbsolute = true) (h : q ∈ p.parents) :
    q.isAbsolute = true := by
  obtain ⟨t, ht⟩ := isAbsolute_iff.mp hp
  have hanchor : p.layout.anchor = .root := by
    unfold layout
    rw [ht]
    rfl
  have habove : ∀ (reversed : List Text) (l : Layout), l ∈ Layout.parentsOf .root reversed →
      l.anchor = .root := by
    intro reversed
    induction reversed with
    | nil =>
      intro l hl
      cases hl
    | cons s reversed ih =>
      intro l hl
      simp only [Layout.parentsOf] at hl
      split at hl
      · exact ih l hl
      · rcases List.mem_cons.mp hl with rfl | htail
        · rfl
        · exact ih l htail
  obtain ⟨⟨anchor, segments⟩, hl, rfl⟩ := List.mem_map.mp h
  rw [hanchor] at hl
  obtain rfl : anchor = .root := habove _ _ hl
  rfl

theorem components_of_absolute (hp : p.isAbsolute = true) :
    p.components = .root :: p.steps.map stepComponent := by
  obtain ⟨t, ht⟩ := isAbsolute_iff.mp hp
  have hlayout : p.layout = ⟨.root, Text.fields t '/'⟩ := by
    unfold layout
    rw [ht]
    rfl
  have hsegments : p.segments = [] :: Text.fields t '/' := by
    unfold segments
    rw [ht, Text.fields_slash_cons]
  have hcomponents : p.components = .root :: named (Text.fields t '/') := by
    unfold components
    rw [hlayout]
    rfl
  rw [hcomponents, steps_of_segments hsegments, named_eq_map,
    List.filter_cons_of_neg (by simp [isNullSegment, Component.ofSegment?])]

theorem components_eq_iff (hp : p.isAbsolute = true) (hq : q.isAbsolute = true) :
    p.components = q.components ↔ p.steps = q.steps := by
  rw [components_of_absolute hp, components_of_absolute hq, List.cons.injEq]
  simp only [true_and]
  exact (List.map_injective_iff.mpr stepComponent_injective).eq_iff

end Absolute

def IsPlain (p : Path) : Prop :=
  p.layout.anchor = .nothing

namespace IsPlain

variable {p : Path} (hp : p.IsPlain)
include hp

theorem segments_eq : p.segments = p.layout.segments := by
  rw [segments_layout, hp]
  rfl

theorem components_eq : p.components = p.steps.map stepComponent := by
  have hcomponents : p.components = named p.layout.segments := by
    unfold components Layout.components
    rw [hp]
    rfl
  rw [hcomponents, named_eq_map]
  exact congrArg (List.map stepComponent) (steps_of_segments (segments_eq hp)).symm

theorem isAbsolute_eq : p.isAbsolute = false := by
  rw [← Bool.not_eq_true]
  intro habsolute
  obtain ⟨t, ht⟩ := isAbsolute_iff.mp habsolute
  unfold IsPlain layout at hp
  rw [ht] at hp
  cases hp

end IsPlain

/-- Segments of a path that begin with a step, if there are any. -/
structure StepFirst (segments : List Text) : Prop where
  noSlash : ∀ s ∈ segments, '/' ∉ s
  first : ∀ s, segments.head? = some s → isNullSegment s = false

theorem StepFirst.isPlain {segments : List Text} (h : StepFirst segments) :
    (Layout.path ⟨.nothing, segments⟩).IsPlain := by
  cases segments with
  | nil => rfl
  | cons s segments =>
    have hlayout : (Layout.path ⟨.nothing, s :: segments⟩).layout = ⟨.nothing, s :: segments⟩ :=
      layout_of_segments (Text.fields_join (List.cons_ne_nil s segments) h.noSlash) (h.first s rfl)
    unfold IsPlain
    rw [hlayout]

theorem StepFirst.steps_eq {segments : List Text} (h : StepFirst segments) :
    (Layout.path ⟨.nothing, segments⟩).steps = segments.filter (!isNullSegment ·) := by
  by_cases hnil : segments = []
  · rw [hnil]
    rfl
  · exact steps_of_segments (Text.fields_join hnil h.noSlash)

/-- The beginning of segments begins with a step when they do. -/
theorem StepFirst.of_isPrefix {front segments : List Text} (h : StepFirst segments)
    (hfront : front <+: segments) : StepFirst front := by
  refine ⟨fun s hs => h.noSlash s (hfront.subset hs), ?_⟩
  intro s hs
  obtain ⟨back, rfl⟩ := hfront
  apply h.first
  rw [List.head?_append, hs]
  rfl

theorem stepFirst_dropWhile {segments : List Text} (h : ∀ s ∈ segments, '/' ∉ s) :
    StepFirst (segments.dropWhile isNullSegment) := by
  refine ⟨fun s hs => h s ((List.dropWhile_sublist isNullSegment).subset hs), ?_⟩
  intro s hs
  have hnot := List.head?_dropWhile_not isNullSegment segments
  rw [hs] at hnot
  simpa using hnot

theorem IsPlain.stepFirst {p : Path} (hp : p.IsPlain) (hne : p.text ≠ []) :
    StepFirst p.segments := by
  refine ⟨fun s hs => not_slash_mem_of_mem_segments hs, ?_⟩
  intro s hs
  rw [hp.segments_eq] at hs
  exact first_of_nothing hp hne hs

/-- What is cut off under a directory, or off a plain path, is plain. -/
theorem isPlain_under? {p base q : Path} (h : p.under? base = some q)
    (hbase : base.components ≠ [] ∨ p.IsPlain) : q.IsPlain := by
  unfold under? at h
  split at h
  · split at h
    · rename_i hlength
      obtain rfl := Option.some.inj h
      rcases hbase with hne | hp
      · exact absurd (List.length_eq_zero_iff.mp hlength) hne
      · rw [hp]
        by_cases hempty : p.text = []
        · -- Nothing is left of a path without components.
          have hsegments : p.layout.segments = [[]] := by
            rw [← hp.segments_eq]
            unfold segments
            rw [hempty]
            rfl
          rw [hsegments]
          rfl
        · rw [← hp.segments_eq]
          exact ((hp.stepFirst hempty).of_isPrefix (trimSegments_isPrefix p.segments)).isPlain
    · rename_i n hlength
      obtain rfl := Option.some.inj h
      have hfirst : StepFirst ((dropComponents (n + 1 - p.layout.anchor.components.length)
          p.layout.segments).dropWhile isNullSegment) := by
        apply stepFirst_dropWhile
        intro s hs
        exact not_slash_mem_of_mem_segments
          (mem_segments_of_mem_layout (mem_of_mem_dropComponents hs))
      exact (hfirst.of_isPrefix (trimSegments_isPrefix _)).isPlain
  · cases h

theorem filter_trimSegments (segments : List Text) :
    (trimSegments segments).filter (!isNullSegment ·) = segments.filter (!isNullSegment ·) := by
  have hdrop : ∀ xs : List Text, (xs.dropWhile isNullSegment).filter (!isNullSegment ·) =
      xs.filter (!isNullSegment ·) := by
    intro xs
    induction xs with
    | nil => rfl
    | cons x xs ih =>
      rw [List.dropWhile_cons]
      split
      · rename_i hnull
        rw [ih, List.filter_cons_of_neg (by simp [hnull])]
      · rfl
  unfold trimSegments
  rw [List.filter_reverse, hdrop, List.filter_reverse, List.reverse_reverse]

/-- The nearest path above is written up to the last step. Above a leading dot alone lies the empty
path. -/
theorem head?_parentsOf (anchor : Anchor) (reversed : List Text) :
    (Layout.parentsOf anchor reversed).head? =
      match reversed.dropWhile isNullSegment with
      | [] => if anchor = .current then some ⟨.nothing, []⟩ else none
      | _ :: above => some ⟨anchor, trimSegments above.reverse⟩ := by
  induction reversed with
  | nil => cases anchor <;> rfl
  | cons s reversed ih =>
    rw [List.dropWhile_cons]
    simp only [Layout.parentsOf]
    split
    · exact ih
    · rfl

/-- A plain path without its last step; without steps there is nothing above it. -/
theorem IsPlain.parent?_eq {p : Path} (hp : p.IsPlain) :
    (p.parent? = none ∧ p.steps = []) ∨
      ∃ q, p.parent? = some q ∧ q.IsPlain ∧ q.steps = p.steps.dropLast := by
  have hparent : p.parent? =
      (Layout.parentsOf .nothing p.segments.reverse).head?.map Layout.path := by
    unfold parent? parents
    rw [hp, hp.segments_eq, List.head?_map]
  have hsplit : p.segments =
      (p.segments.reverse.dropWhile isNullSegment).reverse ++
        (p.segments.reverse.takeWhile isNullSegment).reverse := by
    rw [← List.reverse_append, List.takeWhile_append_dropWhile, List.reverse_reverse]
  have hsteps : p.steps =
      (p.segments.reverse.dropWhile isNullSegment).reverse.filter (!isNullSegment ·) := by
    exact (filter_trimSegments p.segments).symm
  rw [hparent, head?_parentsOf]
  cases hdrop : p.segments.reverse.dropWhile isNullSegment with
  | nil =>
    left
    rw [hsteps, hdrop]
    exact ⟨rfl, rfl⟩
  | cons last above =>
    right
    have hempty : p.text ≠ [] := by
      intro hnil
      have hsegments : p.segments = [[]] := by
        unfold segments
        rw [hnil]
        rfl
      rw [hsegments] at hdrop
      cases hdrop
    have hfront : above.reverse <+: p.segments := by
      rw [hsplit, hdrop, List.reverse_cons, List.append_assoc]
      exact List.prefix_append _ _
    have hfirst := ((hp.stepFirst hempty).of_isPrefix hfront).of_isPrefix
      (trimSegments_isPrefix above.reverse)
    have hlast : isNullSegment last = false := by
      have hnot := List.head?_dropWhile_not isNullSegment p.segments.reverse
      rw [hdrop] at hnot
      simpa using hnot
    refine ⟨_, rfl, hfirst.isPlain, ?_⟩
    rw [hfirst.steps_eq, filter_trimSegments, hsteps, hdrop, List.reverse_cons,
      filter_isNullSegment_concat _ hlast, List.dropLast_concat]

end Path

end TestScaffold
