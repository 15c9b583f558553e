import TestScaffold.Proofs.Path.Segments
import TestScaffold.Proofs.Text.Blanks
import TestScaffold.Proofs.Text.LetterCase
import TestScaffold.Source.Location

/-!
The characters of what is made from a path. Parts of a path have no other characters than the
path, dots and slashes apart. So the name of a component and the path it is imported by stay on
one line when the path of the source does.
-/

namespace TestScaffold

namespace Text

theorem mem_join_of_mem {c : Char} {sep part : Text} {parts : List Text} (hpart : part ∈ parts)
    (hc : c ∈ part) : c ∈ join sep parts := by
  unfold join
  induction parts with
  | nil => cases hpart
  | cons first rest ih =>
    by_cases hrest : rest = []
    · rw [hrest, List.mem_singleton] at hpart
      rw [hrest, List.intercalate_singleton, ← hpart]
      exact hc
    · rw [List.intercalate_cons_of_ne_nil hrest, List.mem_append, List.mem_append]
      rcases List.mem_cons.mp hpart with rfl | htail
      · exact Or.inl (Or.inl hc)
      · exact Or.inr (ih htail)

theorem mem_of_mem_fields {t part : Text} {sep c : Char} (hpart : part ∈ t.fields sep)
    (hc : c ∈ part) : c ∈ t := by
  have hjoin : join [sep] (t.fields sep) = t := List.intercalate_splitOn sep
  rw [← hjoin]
  exact mem_join_of_mem hpart hc

end Text

theorem FileName.mem_of_mem_stem {name : Text} {c : Char} (h : c ∈ (ofText name).stem) :
    c ∈ name := by
  rw [← text_ofText name]
  unfold text
  split
  · exact h
  · exact List.mem_append_left _ h

namespace Path

theorem mem_of_mem_segments {p : Path} {s : Text} {c : Char} (hs : s ∈ p.segments)
    (hc : c ∈ s) : c ∈ p.text :=
  Text.mem_of_mem_fields hs hc

theorem mem_of_mem_path {l : Layout} {c : Char} (h : c ∈ l.path.text) :
    c = '.' ∨ c = '/' ∨ ∃ s ∈ l.segments, c ∈ s := by
  have hjoin : ∀ parts : List Text, c ∈ Text.join ['/'] parts → c = '/' ∨ ∃ s ∈ parts, c ∈ s := by
    intro parts hc
    rcases Text.mem_join hc with hslash | hpart
    · exact Or.inl (List.mem_singleton.mp hslash)
    · exact Or.inr hpart
  obtain ⟨anchor, segments⟩ := l
  cases anchor with
  | nothing => exact Or.inr (hjoin segments h)
  | root =>
    rcases List.mem_cons.mp h with hslash | hinner
    · exact Or.inr (Or.inl hslash)
    · exact Or.inr (hjoin segments hinner)
  | current =>
    cases segments with
    | nil => exact Or.inl (List.mem_singleton.mp h)
    | cons s segments =>
      rcases List.mem_cons.mp h with hdot | h
      · exact Or.inl hdot
      rcases List.mem_cons.mp h with hslash | hinner
      · exact Or.inr (Or.inl hslash)
      · exact Or.inr (hjoin (s :: segments) hinner)

theorem MadeFrom.not_mem {p q : Path} {c : Char} (h : q.MadeFrom p) (hdot : c ≠ '.')
    (hslash : c ≠ '/') (hc : c ∉ p.text) : c ∉ q.text := by
  obtain ⟨l, rfl, hl⟩ := h
  intro hmem
  rcases mem_of_mem_path hmem with heq | heq | ⟨s, hs, hcs⟩
  · exact hdot heq
  · exact hslash heq
  · exact hc (mem_of_mem_segments (mem_segments_of_mem_layout (hl s hs)) hcs)

theorem mem_segments_of_mem_names {p : Path} {name : Text} (h : name ∈ p.names) :
    name ∈ p.segments := by
  obtain ⟨component, hmem, hname⟩ := List.mem_filterMap.mp h
  cases component with
  | name text =>
    obtain rfl := Option.some.inj hname
    unfold components Layout.components at hmem
    rcases List.mem_append.mp hmem with hanchor | hsegments
    · cases hl : p.layout.anchor <;> simp [hl, Anchor.components] at hanchor
    · obtain ⟨s, hs, hcomponent⟩ := List.mem_filterMap.mp hsegments
      unfold Component.ofSegment? at hcomponent
      split at hcomponent
      · cases hcomponent
      · split at hcomponent
        · cases hcomponent
        · cases hcomponent
          exact mem_segments_of_mem_layout hs
  | _ => cases hname

theorem not_mem_stem? {p : Path} {stem : Text} {c : Char} (h : p.stem? = some stem)
    (hc : c ∉ p.text) : c ∉ stem := by
  obtain ⟨file, hfile, rfl⟩ := Option.map_eq_some_iff.mp h
  obtain ⟨name, hname, rfl⟩ := Option.map_eq_some_iff.mp hfile
  intro hmem
  exact hc (mem_of_mem_segments (mem_segments_of_fileName? hname) (FileName.mem_of_mem_stem hmem))

theorem not_mem_directoryName {p : Path} {c : Char} (hdot : c ≠ '.') (hslash : c ≠ '/')
    (hc : c ∉ p.text) : c ∉ p.directoryName := by
  unfold directoryName
  cases hname : p.parent?.bind fileName? with
  | none => exact List.not_mem_nil
  | some name =>
    obtain ⟨q, hq, hname⟩ := Option.bind_eq_some_iff.mp hname
    -- The parent may be written with a dot or a slash that the path does not have.
    have hmade : q.MadeFrom p := madeFrom_of_mem_parents (List.mem_of_mem_head? hq)
    intro hmem
    exact hmade.not_mem hdot hslash hc (mem_of_mem_segments (mem_segments_of_fileName? hname) hmem)

theorem not_mem_namesWithoutExtension {p : Path} {name : Text} {c : Char}
    (h : name ∈ p.namesWithoutExtension) (hc : c ∉ p.text) : c ∉ name := by
  have hnames : ∀ name ∈ p.names, c ∉ name := by
    intro name hname hmem
    exact hc (mem_of_mem_segments (mem_segments_of_mem_names hname) hmem)
  unfold namesWithoutExtension at h
  split at h
  · exact hnames name h
  · rename_i stem hstem
    rcases List.mem_append.mp h with hfront | hlast
    · exact hnames name (List.dropLast_subset _ hfront)
    · split at hlast
      · cases hlast
      · rw [List.mem_singleton.mp hlast]
        exact not_mem_stem? hstem hc

end Path

theorem not_mem_identityOf {source : Path} (h : '\n' ∉ source.text) :
    '\n' ∉ identityOf source := by
  unfold identityOf
  dsimp only
  split
  · rw [List.mem_append, not_or]
    have hdirectory := Path.not_mem_directoryName (by decide) (by decide) h
    exact ⟨Text.not_mem_capitalize hdirectory, by decide⟩
  · apply Text.not_mem_capitalize
    cases hstem : source.stem? with
    | none => exact List.not_mem_nil
    | some stem => exact Path.not_mem_stem? hstem h

/-- No component is called like the keyword. -/
theorem identityOf_ne_type (source : Path) : identityOf source ≠ typeKeyword := by
  unfold identityOf
  dsimp only
  split
  · intro heq
    -- The last letters are those of `Page`.
    have hend : "Page".toList <:+ typeKeyword := ⟨_, heq⟩
    exact absurd hend (by decide)
  · intro heq
    apply Text.head?_capitalize_ne (source.stem?.getD [])
    rw [heq]
    rfl

theorem mem_of_mem_dropUpSteps {t : Text} {c : Char} (h : c ∈ dropUpSteps t) : c ∈ t := by
  induction t using dropUpSteps.induct with
  | case1 t ih => exact List.mem_append_right "../".toList (ih h)
  | case2 t hnot =>
    rw [dropUpSteps] at h
    · exact h
    · exact hnot

theorem mem_of_mem_dropRelativeSteps {t : Text} {c : Char} (h : c ∈ dropRelativeSteps t) :
    c ∈ t := by
  unfold dropRelativeSteps at h
  split at h
  · exact mem_of_mem_dropUpSteps h
  · cases hafter : Text.after? "./".toList t with
    | none =>
      rw [hafter] at h
      exact h
    | some rest =>
      rw [hafter] at h
      rw [Text.after?_eq_some_iff.mp hafter]
      exact List.mem_append_right _ h

/-- An aliased path has the characters of the alias and of the specifier, and slashes. -/
theorem PathSettings.mem_of_mem_aliasPath {s : PathSettings} {specifier : Text} {c : Char}
    (h : c ∈ s.aliasPath specifier) : c ∈ s.aliasPrefix ∨ c ∈ specifier ∨ c = '/' := by
  rcases List.mem_append.mp h with halias | hpath
  · exact Or.inl halias
  · right
    -- Backslashes have become slashes, all other characters are the specifier's.
    obtain ⟨d, hd, rfl⟩ := List.mem_map.mp (mem_of_mem_dropRelativeSteps hpath)
    split
    · exact Or.inr rfl
    · exact Or.inl hd

theorem PathSettings.not_mem_withoutSourceRoot (s : PathSettings) {relative : Path} {c : Char}
    (hdot : c ≠ '.') (hslash : c ≠ '/') (h : c ∉ relative.text) :
    c ∉ (s.withoutSourceRoot relative).text := by
  unfold withoutSourceRoot
  cases s.sourceRoot with
  | none => exact h
  | some root =>
    cases hunder : relative.under? ⟨root⟩ with
    | none => simpa [hunder] using h
    | some part =>
      simp only [hunder, Option.getD_some]
      exact (Path.madeFrom_under? hunder).not_mem hdot hslash h

/-- Apart from dots and slashes an import path has no other characters than the alias and the
path of the source. -/
theorem PathSettings.not_mem_importPath {s : PathSettings} {relative : Path} {c : Char}
    (hdot : c ≠ '.') (hslash : c ≠ '/') (halias : c ∉ s.aliasPrefix) (h : c ∉ relative.text) :
    c ∉ s.importPath relative := by
  have hinner := s.not_mem_withoutSourceRoot hdot hslash h
  intro hmem
  rcases mem_of_mem_aliasPath hmem with hstart | hnames | heq
  · exact halias hstart
  · rcases Text.mem_join hnames with hsep | ⟨name, hname, hc⟩
    · exact hslash (List.mem_singleton.mp hsep)
    · exact Path.not_mem_namesWithoutExtension hname hinner hc
  · exact hslash heq

end TestScaffold
