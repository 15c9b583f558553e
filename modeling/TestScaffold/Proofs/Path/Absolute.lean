import TestScaffold.Proofs.Path.Steps

/-!
How absolute paths are written. An absolute path that is made begins with one slash or two, has one
slash between its steps, and at the end at most another one; the paths of what lies below it have
none at the end, and such a path is made again of itself.
-/

namespace TestScaffold

namespace Text

theorem fields_replicate_slash (n : Nat) (t : Text) :
    fields (List.replicate n '/' ++ t) '/' = List.replicate n [] ++ fields t '/' := by
  induction n with
  | zero => rfl
  | succ n ih =>
    rw [List.replicate_succ, List.cons_append, fields_slash_cons, ih]
    rfl

theorem takeWhile_slash_join {parts : List Text} (hparts : [] ∉ parts)
    (hslash : ∀ s ∈ parts, '/' ∉ s) : (join ['/'] parts).takeWhile (· = '/') = [] := by
  cases parts with
  | nil => rfl
  | cons s parts =>
    cases s with
    | nil => exact absurd List.mem_cons_self hparts
    | cons c s =>
      have hc : c ≠ '/' := fun h => hslash (c :: s) List.mem_cons_self (by simp [h])
      have hjoin : ∃ rest, join ['/'] ((c :: s) :: parts) = c :: rest := by
        cases parts with
        | nil => exact ⟨s, by simp [join]⟩
        | cons s' parts => exact ⟨_, rfl⟩
      obtain ⟨rest, hrest⟩ := hjoin
      rw [hrest, List.takeWhile_cons_of_neg (by simpa using hc)]

end Text

namespace Path

/-- An absolute path with these steps, one slash between them and so many before them, and perhaps
a slash at the end. The root is written as if it had this last one. -/
structure Tidy (p : Path) (slashes : Nat) (steps : List Text) : Prop where
  few : slashes = 1 ∨ slashes = 2
  isStep : ∀ s ∈ steps, isNullSegment s = false
  segments : p.segments = List.replicate slashes [] ++ steps ++ [[]] ∨
    p.segments = List.replicate slashes [] ++ steps ∧ steps ≠ []

variable {p cwd : Path} {slashes : Nat} {steps names : List Text} {name : Text}

theorem tidy_slashes (hfew : slashes = 1 ∨ slashes = 2) :
    Tidy ⟨List.replicate slashes '/'⟩ slashes [] := by
  refine ⟨hfew, fun _ hs => absurd hs List.not_mem_nil, Or.inl ?_⟩
  rcases hfew with rfl | rfl
  · rfl
  · rfl

theorem exists_tidy_writtenRoot (p : Path) : ∃ slashes, p.writtenRoot.Tidy slashes [] := by
  unfold writtenRoot
  split
  · exact ⟨2, tidy_slashes (Or.inr rfl)⟩
  · exact ⟨1, tidy_slashes (Or.inl rfl)⟩

/-- A path with one slash or two in front of its first name keeps them. -/
theorem writtenRoot_of_text (hfew : slashes = 1 ∨ slashes = 2)
    (hp : p.text = List.replicate slashes '/' ++ Text.join ['/'] steps) (hempty : [] ∉ steps)
    (hslash : ∀ s ∈ steps, '/' ∉ s) : p.writtenRoot = ⟨List.replicate slashes '/'⟩ := by
  have hstart : p.text.takeWhile (· = '/') = List.replicate slashes '/' := by
    rw [hp, List.takeWhile_append_of_pos, Text.takeWhile_slash_join hempty hslash, List.append_nil]
    intro c hc
    simpa using List.eq_of_mem_replicate hc
  unfold writtenRoot
  rw [hstart]
  rcases hfew with rfl | rfl
  · rfl
  · rfl

/-- A slash at the end of a tidy path is the one before the name of a child. -/
theorem Tidy.segments_child (h : p.Tidy slashes steps) (hslash : '/' ∉ name) :
    (p.child name).segments = List.replicate slashes [] ++ (steps ++ [name]) := by
  rw [Path.segments_child p hslash]
  rcases h.segments with hsegments | ⟨hsegments, hne⟩
  · rw [hsegments, List.getLast?_concat, if_pos rfl, List.dropLast_concat, List.append_assoc]
  · have hlast : p.segments.getLast? ≠ some [] := by
      rw [hsegments, List.getLast?_append_of_ne_nil _ hne]
      intro hend
      have hnull := h.isStep [] (List.mem_of_mem_getLast? hend)
      cases hnull
    rw [if_neg hlast, hsegments, List.append_assoc]

theorem Tidy.child (h : p.Tidy slashes steps) (hslash : '/' ∉ name)
    (hname : isNullSegment name = false) : (p.child name).Tidy slashes (steps ++ [name]) := by
  refine ⟨h.few, ?_, Or.inr ⟨h.segments_child hslash, by simp⟩⟩
  intro s hs
  rcases List.mem_append.mp hs with hold | hnew
  · exact h.isStep s hold
  · rw [List.mem_singleton.mp hnew]
    exact hname

theorem Tidy.foldl_child (h : p.Tidy slashes steps)
    (hnames : ∀ x ∈ names, '/' ∉ x ∧ isNullSegment x = false) :
    (names.foldl Path.child p).Tidy slashes (steps ++ names) := by
  induction names generalizing p steps with
  | nil =>
    rw [List.append_nil]
    exact h
  | cons name names ih =>
    obtain ⟨hslash, hname⟩ := hnames name List.mem_cons_self
    rw [List.append_cons]
    exact ih (h.child hslash hname) fun x hx => hnames x (List.mem_cons_of_mem name hx)

/-- What lies below a tidy path is written without a slash at the end. -/
theorem Tidy.segments_foldl_child (h : p.Tidy slashes steps) (hne : names ≠ [])
    (hnames : ∀ x ∈ names, '/' ∉ x ∧ isNullSegment x = false) :
    (names.foldl Path.child p).segments = List.replicate slashes [] ++ (steps ++ names) := by
  obtain ⟨init, name, rfl⟩ : ∃ init name, names = init ++ [name] :=
    ⟨names.dropLast, names.getLast hne, (List.dropLast_append_getLast hne).symm⟩
  have hinit := h.foldl_child fun x hx => hnames x (List.mem_append_left _ hx)
  rw [List.foldl_append, List.foldl_cons, List.foldl_nil,
    hinit.segments_child (hnames name (by simp)).1, List.append_assoc]

/-- Joining the empty path adds a slash, unless there is one at the end already. -/
theorem Tidy.join_nil (h : p.Tidy slashes steps) : (p.join ⟨[]⟩).Tidy slashes steps := by
  have hrelative : Path.isAbsolute ⟨[]⟩ = false := rfl
  unfold join
  rw [hrelative, if_neg Bool.false_ne_true]
  split
  · rw [List.append_nil]
    exact h
  · rename_i hend
    refine ⟨h.few, h.isStep, Or.inl ?_⟩
    rcases h.segments with hslash | ⟨hsegments, -⟩
    · rw [← getLast?_segments_eq_nil_iff, hslash, List.getLast?_concat] at hend
      exact absurd rfl hend
    · rw [← hsegments]
      exact Text.fields_append_slash p.text []

/-- The steps that are followed from the current directory, or from the root. -/
theorem mem_filter_layout {s : Text} (hs : s ∈ p.layout.segments.filter (!isNullSegment ·)) :
    '/' ∉ s ∧ isNullSegment s = false := by
  obtain ⟨hsegment, hstep⟩ := List.mem_filter.mp hs
  exact ⟨not_slash_mem_of_mem_segments (mem_segments_of_mem_layout hsegment), by simpa using hstep⟩

/-- In a tidy directory absolute paths are made tidy. -/
theorem exists_tidy_absolute (h : cwd.Tidy slashes steps) (p : Path) :
    ∃ slashes' steps', (absolute cwd p).Tidy slashes' steps' := by
  have hstart : ∃ n first, (if p.isAbsolute then p.writtenRoot else cwd).Tidy n first := by
    split
    · obtain ⟨n, hroot⟩ := exists_tidy_writtenRoot p
      exact ⟨n, [], hroot⟩
    · exact ⟨slashes, steps, h⟩
  obtain ⟨n, first, hfirst⟩ := hstart
  have hsteps : ∀ x ∈ p.layout.segments.filter (!isNullSegment ·),
      '/' ∉ x ∧ isNullSegment x = false := fun x hx => mem_filter_layout hx
  have hfull := hfirst.foldl_child hsteps
  unfold absolute
  dsimp only
  split
  · exact ⟨_, _, hfull.join_nil⟩
  · exact ⟨_, _, hfull⟩

/-- A tidy path without a slash at the end is the absolute path that it stands for. -/
theorem Tidy.absolute_eq (h : p.Tidy slashes steps) (hend : p.segments.getLast? ≠ some [])
    (cwd : Path) : absolute cwd p = p := by
  have hempty : [] ∉ steps := fun hs => by cases h.isStep [] hs
  obtain ⟨hsegments, hne⟩ := h.segments.resolve_left fun hslash =>
    hend (by rw [hslash, List.getLast?_concat])
  have hslash : ∀ s ∈ steps, '/' ∉ s := by
    intro s hs
    apply not_slash_mem_of_mem_segments (p := p)
    rw [hsegments]
    exact List.mem_append_right _ hs
  have hpath : p = ⟨List.replicate slashes '/' ++ Text.join ['/'] steps⟩ := by
    apply eq_of_segments
    rw [hsegments]
    exact ((Text.fields_replicate_slash _ _).trans
      (congrArg _ (Text.fields_join hne hslash))).symm
  have hsteps : p.layout.segments.filter (!isNullSegment ·) = steps := by
    rw [← steps_eq_filter_layout, steps_of_segments hsegments, List.filter_append,
      List.filter_replicate_of_neg (by decide), List.nil_append, List.filter_eq_self]
    intro s hs
    rw [h.isStep s hs]
    rfl
  have habsolute : p.isAbsolute = true := by
    rw [hpath]
    rcases h.few with rfl | rfl
    · rfl
    · rfl
  have htext : p.text.getLast? ≠ some '/' := fun htext =>
    hend (getLast?_segments_eq_nil_iff.mpr (Or.inr htext))
  have hroot := writtenRoot_of_text h.few (congrArg Path.text hpath) hempty hslash
  unfold absolute
  dsimp only
  rw [hsteps, if_neg htext, if_pos habsolute, hroot]
  apply eq_of_segments
  rw [(tidy_slashes h.few).segments_foldl_child hne fun x hx => ⟨hslash x hx, h.isStep x hx⟩,
    hsegments]
  rfl

end Path

end TestScaffold
