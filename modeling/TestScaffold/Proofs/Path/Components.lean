import TestScaffold.Proofs.Path.Segments

/-!
The components of paths that are cut and joined. The path of a file under a directory has the
components that follow those of the directory, and the path of a name in a directory ends in that
name.
-/

namespace TestScaffold

namespace Path

def named (segments : List Text) : List Component :=
  segments.filterMap Component.ofSegment?

theorem named_cons_of_null {s : Text} (segments : List Text) (h : isNullSegment s = true) :
    named (s :: segments) = named segments :=
  List.filterMap_cons_none (Option.isNone_iff_eq_none.mp h)

theorem named_dropWhile (segments : List Text) :
    named (segments.dropWhile isNullSegment) = named segments := by
  induction segments with
  | nil => rfl
  | cons s segments ih =>
    rw [List.dropWhile_cons]
    split
    · rename_i hnull
      rw [ih, named_cons_of_null segments hnull]
    · rfl

theorem named_reverse (segments : List Text) : named segments.reverse = (named segments).reverse :=
  List.filterMap_reverse

theorem named_trimSegments (segments : List Text) :
    named (trimSegments segments) = named segments := by
  unfold trimSegments
  rw [named_reverse, named_dropWhile, named_reverse, List.reverse_reverse]

theorem named_dropComponents (n : Nat) (segments : List Text) :
    named (dropComponents n segments) = (named segments).drop n := by
  induction segments generalizing n with
  | nil => cases n <;> simp [dropComponents, named]
  | cons s segments ih =>
    cases n with
    | zero => rfl
    | succ n =>
      simp only [dropComponents]
      split
      · rename_i hnull
        rw [ih, named_cons_of_null segments hnull]
      · rename_i hname
        obtain ⟨c, hc⟩ : ∃ c, Component.ofSegment? s = some c := by
          rw [← Option.ne_none_iff_exists']
          simpa [isNullSegment] using hname
        rw [ih]
        unfold named
        rw [List.filterMap_cons_some hc, List.drop_succ_cons]

theorem trimSegments_isPrefix (segments : List Text) : trimSegments segments <+: segments := by
  unfold trimSegments
  rw [← List.reverse_suffix, List.reverse_reverse]
  exact List.dropWhile_suffix isNullSegment

theorem layout_of_segments {t : Text} {s : Text} {segments : List Text}
    (h : Text.fields t '/' = s :: segments) (hs : isNullSegment s = false) :
    layout ⟨t⟩ = ⟨.nothing, s :: segments⟩ := by
  unfold layout
  split
  · rename_i u hu
    obtain rfl : t = '/' :: u := hu
    rw [Text.fields_slash_cons] at h
    rw [← (List.cons.inj h).1] at hs
    cases hs
  · rename_i hdot
    obtain rfl : t = ['.'] := hdot
    rw [Text.fields_of_not_mem (by decide)] at h
    rw [← (List.cons.inj h).1] at hs
    cases hs
  · rename_i u hu
    obtain rfl : t = '.' :: '/' :: u := hu
    rw [show '.' :: '/' :: u = ['.'] ++ '/' :: u from rfl, Text.fields_append_slash,
      Text.fields_of_not_mem (by decide)] at h
    rw [← (List.cons.inj h).1] at hs
    cases hs
  · rw [h]

/-- A path that is put together from segments, of which the first is a component, has the
components that these stand for. -/
theorem components_path_nothing {segments : List Text} (hslash : ∀ s ∈ segments, '/' ∉ s)
    (hfirst : ∀ s, segments.head? = some s → isNullSegment s = false) :
    (Layout.path ⟨.nothing, segments⟩).components = named segments := by
  cases segments with
  | nil => rfl
  | cons s segments =>
    have hlayout : (Layout.path ⟨.nothing, s :: segments⟩).layout = ⟨.nothing, s :: segments⟩ :=
      layout_of_segments (Text.fields_join (List.cons_ne_nil s segments) hslash) (hfirst s rfl)
    unfold components
    rw [hlayout]
    rfl

theorem fields_cons_of_ne {c : Char} (t : Text) (h : c ≠ '/') :
    Text.fields (c :: t) '/' = (Text.fields t '/').modifyHead (c :: ·) := by
  unfold Text.fields
  rw [List.splitOn_cons_eq_if_modifyHead, if_neg (by simpa using h)]

/-- Without an anchor a path begins with a component, unless it is empty. -/
theorem first_of_nothing {p : Path} (hanchor : p.layout.anchor = .nothing) (hne : p.text ≠ [])
    {s : Text} (hs : p.layout.segments.head? = some s) : isNullSegment s = false := by
  obtain ⟨text⟩ := p
  unfold layout at hanchor hs
  split at hanchor
  · cases hanchor
  · cases hanchor
  · cases hanchor
  · rename_i hroot hdot hcurrent
    rw [← Bool.not_eq_true]
    intro hnull
    cases text with
    | nil => exact hne rfl
    | cons c t =>
      have hc : c ≠ '/' := by
        rintro rfl
        exact hroot t rfl
      simp only [fields_cons_of_ne t hc] at hs
      cases t with
      | nil =>
        obtain rfl : [c] = s := by simpa [Text.fields] using hs
        have hc' : c ≠ '.' := by
          rintro rfl
          exact hdot rfl
        simp [isNullSegment, Component.ofSegment?, hc'] at hnull
      | cons b t =>
        by_cases hb : b = '/'
        · subst hb
          rw [Text.fields_slash_cons] at hs
          obtain rfl : [c] = s := by simpa using hs
          have hc' : c ≠ '.' := by
            rintro rfl
            exact hcurrent t rfl
          simp [isNullSegment, Component.ofSegment?, hc'] at hnull
        · rw [fields_cons_of_ne t hb] at hs
          cases hfields : Text.fields t '/' with
          | nil => exact absurd hfields (List.splitOn_ne_nil '/' t)
          | cons x rest =>
            obtain rfl : c :: b :: x = s := by simpa [hfields] using hs
            simp [isNullSegment, Component.ofSegment?] at hnull
            split at hnull <;> cases hnull

theorem components_path_root {segments : List Text} (hslash : ∀ s ∈ segments, '/' ∉ s) :
    (Layout.path ⟨.root, segments⟩).components = .root :: named segments := by
  change .root :: named (Text.fields (Text.join ['/'] segments) '/') = _
  by_cases hnil : segments = []
  · subst hnil
    rfl
  · rw [Text.fields_join hnil hslash]

theorem components_path_current {segments : List Text} (hslash : ∀ s ∈ segments, '/' ∉ s) :
    (Layout.path ⟨.current, segments⟩).components = .current :: named segments := by
  cases segments with
  | nil => rfl
  | cons s segments =>
    change .current :: named (Text.fields (Text.join ['/'] (s :: segments)) '/') = _
    rw [Text.fields_join (List.cons_ne_nil s segments) hslash]

/-- The null segments at the end of a path are not among its components. -/
theorem components_path_trimmed (p : Path) :
    (Layout.path ⟨p.layout.anchor, trimSegments p.layout.segments⟩).components =
      p.components := by
  have hslash : ∀ s ∈ trimSegments p.layout.segments, '/' ∉ s := by
    intro s hs
    exact not_slash_mem_of_mem_segments (mem_segments_of_mem_layout (mem_of_mem_trimSegments hs))
  have hnamed := named_trimSegments p.layout.segments
  have hcomponents : p.components = p.layout.anchor.components ++ named p.layout.segments := rfl
  rw [hcomponents, ← hnamed]
  cases hanchor : p.layout.anchor with
  | root => exact components_path_root hslash
  | current => exact components_path_current hslash
  | nothing =>
    by_cases hempty : p.text = []
    · have hsegments : p.layout.segments = [[]] := by
        unfold layout
        rw [hempty]
        rfl
      rw [hsegments]
      rfl
    · apply components_path_nothing hslash
      intro s hs
      apply first_of_nothing hanchor hempty
      obtain ⟨tail, htail⟩ := trimSegments_isPrefix p.layout.segments
      rw [← htail, List.head?_append, hs]
      rfl

theorem components_eq_append_drop {p base : Path} (h : p.startsWith base = true) :
    p.components = base.components ++ p.components.drop base.components.length := by
  obtain ⟨rest, hrest⟩ := List.isPrefixOf_iff_prefix.mp h
  rw [← hrest, List.drop_left]

/-- A path under a directory has the components that follow those of the directory. -/
theorem components_under? {p base q : Path} (h : p.under? base = some q) :
    p.components = base.components ++ q.components := by
  unfold under? at h
  split at h
  · rename_i hstarts
    have hsplit := components_eq_append_drop hstarts
    split at h
    · rename_i hlength
      obtain rfl := Option.some.inj h
      rw [components_path_trimmed, List.length_eq_zero_iff.mp hlength]
      rfl
    · rename_i n hlength
      obtain rfl := Option.some.inj h
      let rest := dropComponents (n + 1 - p.layout.anchor.components.length) p.layout.segments
      have hslash : ∀ s ∈ trimSegments (rest.dropWhile isNullSegment), '/' ∉ s := by
        intro s hs
        have hmem := (List.dropWhile_sublist isNullSegment).subset (mem_of_mem_trimSegments hs)
        exact not_slash_mem_of_mem_segments
          (mem_segments_of_mem_layout (mem_of_mem_dropComponents hmem))
      have hfirst : ∀ s, (trimSegments (rest.dropWhile isNullSegment)).head? = some s →
          isNullSegment s = false := by
        intro s hs
        obtain ⟨tail, htail⟩ := trimSegments_isPrefix (rest.dropWhile isNullSegment)
        have hhead : (rest.dropWhile isNullSegment).head? = some s := by
          rw [← htail, List.head?_append, hs]
          rfl
        have hnot := List.head?_dropWhile_not isNullSegment rest
        rw [hhead] at hnot
        simpa using hnot
      have hanchor : p.layout.anchor.components.length ≤ n + 1 := by
        cases p.layout.anchor <;> simp [Anchor.components]
      rw [components_path_nothing hslash hfirst, named_trimSegments, named_dropWhile,
        named_dropComponents, hsplit]
      congr 1
      rw [hlength]
      change List.drop (n + 1) (p.layout.anchor.components ++ named p.layout.segments) = _
      rw [List.drop_append, List.drop_eq_nil_of_le hanchor, List.nil_append]
  · cases h

theorem fileName?_of_under? {p base q : Path} {name : Text} (h : p.under? base = some q)
    (hname : q.fileName? = some name) : p.fileName? = some name := by
  obtain ⟨c, hlast, hc⟩ := Option.bind_eq_some_iff.mp hname
  unfold fileName?
  rw [components_under? h, List.getLast?_append, hlast]
  exact hc

/-- A path whose last segment is a name ends in that name. -/
theorem fileName?_of_segments {p : Path} {name : Text} (hlast : p.segments.getLast? = some name)
    (hname : Component.ofSegment? name = some (.name name)) : p.fileName? = some name := by
  rw [segments_layout, List.getLast?_append] at hlast
  have hend : p.layout.segments.getLast? = some name := by
    cases hsegments : p.layout.segments.getLast? with
    | some last =>
      rw [hsegments] at hlast
      exact hlast
    | none =>
      -- What is left of the path is its anchor, and that ends in no name.
      rw [hsegments] at hlast
      cases hanchor : p.layout.anchor with
      | nothing => simp [hanchor, Anchor.segments] at hlast
      | root =>
        obtain rfl : [] = name := by simpa [hanchor, Anchor.segments] using hlast
        cases hname
      | current =>
        obtain rfl : ['.'] = name := by simpa [hanchor, Anchor.segments] using hlast
        cases hname
  obtain ⟨front, hfront⟩ := List.getLast?_eq_some_iff.mp hend
  unfold fileName? components Layout.components
  rw [hfront, List.filterMap_append, List.filterMap_cons_some hname, List.filterMap_nil,
    ← List.append_assoc, List.getLast?_concat]
  rfl

/-- The last segment is empty when there is a slash at the end, or nothing at all. -/
theorem getLast?_segments_eq_nil_iff {p : Path} :
    p.segments.getLast? = some [] ↔ p.text = [] ∨ p.text.getLast? = some '/' := by
  constructor
  · intro hlast
    obtain ⟨front, hfront⟩ := List.getLast?_eq_some_iff.mp hlast
    by_cases hnil : front = []
    · left
      rw [hnil, List.nil_append] at hfront
      exact congrArg Path.text (eq_of_segments (q := ⟨[]⟩) hfront)
    · right
      have hslashes : ∀ s ∈ front, '/' ∉ s := by
        intro s hs
        apply not_slash_mem_of_mem_segments (p := p)
        rw [hfront]
        exact List.mem_append_left _ hs
      have hsegments : p.segments = segments ⟨Text.join ['/'] front ++ ['/']⟩ := by
        unfold segments at hfront ⊢
        rw [hfront, Text.fields_append_slash, Text.fields_join hnil hslashes]
        rfl
      rw [eq_of_segments hsegments, List.getLast?_concat]
  · rintro (hempty | hfinal)
    · unfold segments
      rw [hempty]
      rfl
    · obtain ⟨start, hstart⟩ := List.getLast?_eq_some_iff.mp hfinal
      unfold segments
      rw [hstart, Text.fields_append_slash]
      exact List.getLast?_concat

/-- The path of a name in a directory has the segments of the directory and this name. A slash at
the end of the directory is the one before the name. -/
theorem segments_child (p : Path) {name : Text} (hslash : '/' ∉ name) :
    (p.child name).segments =
      (if p.segments.getLast? = some [] then p.segments.dropLast else p.segments) ++ [name] := by
  have hrelative : Path.isAbsolute ⟨name⟩ = false := by
    cases name with
    | nil => rfl
    | cons c t =>
      have hc : c ≠ '/' := by
        rintro rfl
        exact hslash List.mem_cons_self
      simpa [isAbsolute] using hc
  unfold child join
  rw [hrelative]
  simp only [Bool.false_eq_true, if_false, getLast?_segments_eq_nil_iff]
  split
  · rename_i hcut
    rcases hcut with hempty | hfinal
    · unfold segments
      rw [hempty, List.nil_append, Text.fields_of_not_mem hslash]
      rfl
    · obtain ⟨start, hstart⟩ := List.getLast?_eq_some_iff.mp hfinal
      unfold segments
      rw [hstart, List.append_assoc, List.singleton_append, Text.fields_append_slash,
        Text.fields_of_not_mem hslash, Text.fields_append_slash]
      exact congrArg (· ++ [name]) List.dropLast_concat.symm
  · unfold segments
    rw [Text.fields_append_slash, Text.fields_of_not_mem hslash]

/-- The path of a name in a directory ends in this name. -/
theorem getLast?_segments_child (p : Path) {name : Text} (hslash : '/' ∉ name) :
    (p.child name).segments.getLast? = some name := by
  rw [segments_child p hslash, List.getLast?_concat]

theorem fileName?_child (p : Path) {name : Text} (hslash : '/' ∉ name)
    (hname : Component.ofSegment? name = some (.name name)) :
    (p.child name).fileName? = some name :=
  fileName?_of_segments (getLast?_segments_child p hslash) hname

end Path

end TestScaffold
