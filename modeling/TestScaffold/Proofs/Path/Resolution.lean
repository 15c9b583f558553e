import TestScaffold.Proofs.Disk.Names
import TestScaffold.Proofs.Path.Characters

/-!
Paths resolved by their text alone. Dots lead nowhere, and `..` undoes the name before it, so
a resolved path has no steps up but those at its start. Names lead down from where the rest of the
path leads.
-/

namespace TestScaffold

theorem FileName.stem_ofText_ne_nil {name : Text} (h : name ≠ []) : (ofText name).stem ≠ [] := by
  unfold ofText
  split
  · exact h
  · exact h
  · rename_i stem extension hstem hcut
    rintro rfl
    exact hstem rfl

namespace Path

variable {place components : List Component} {c x : Component}

section Names

variable {p : Path} {names : List Text} {segment name stem : Text}

theorem Component.eq_of_ofSegment? (h : ofSegment? segment = some (.name name)) :
    name = segment ∧ Disk.IsName segment := by
  unfold ofSegment? at h
  split at h
  · cases h
  · rename_i hnull
    split at h
    · cases h
    · rename_i hup
      cases h
      exact ⟨rfl, fun hempty => hnull (Or.inl hempty), fun hdot => hnull (Or.inr hdot), hup⟩

theorem isName_of_mem_components (h : .name name ∈ p.components) :
    Disk.IsName name ∧ '/' ∉ name := by
  rcases List.mem_append.mp h with hanchor | hsegments
  · cases hcase : p.layout.anchor <;> simp [hcase, Anchor.components] at hanchor
  · obtain ⟨segment, hsegment, hcomponent⟩ := List.mem_filterMap.mp hsegments
    obtain ⟨rfl, hname⟩ := Component.eq_of_ofSegment? hcomponent
    exact ⟨hname, not_slash_mem_of_mem_segments (mem_segments_of_mem_layout hsegment)⟩

theorem name_mem_of_fileName? (h : p.fileName? = some name) : .name name ∈ p.components := by
  obtain ⟨component, hlast, hname⟩ := Option.bind_eq_some_iff.mp h
  cases component with
  | name text =>
    obtain rfl := Option.some.inj hname
    exact List.mem_of_mem_getLast? hlast
  | _ => cases hname

theorem exists_fileName?_of_stem? (h : p.stem? = some stem) :
    ∃ name, p.fileName? = some name ∧ stem = (FileName.ofText name).stem := by
  obtain ⟨file, hfile, rfl⟩ := Option.map_eq_some_iff.mp h
  obtain ⟨name, hname, rfl⟩ := Option.map_eq_some_iff.mp hfile
  exact ⟨name, hname, rfl⟩

theorem isName_of_mem_names (h : name ∈ p.names) : Disk.IsName name ∧ '/' ∉ name := by
  obtain ⟨component, hmem, hname⟩ := List.mem_filterMap.mp h
  cases component with
  | name text =>
    obtain rfl := Option.some.inj hname
    exact isName_of_mem_components hmem
  | _ => cases hname

/-- What is left of a name without its extension can be a dot or two, which are no names. -/
theorem isName_of_mem_namesWithoutExtension (h : name ∈ p.namesWithoutExtension) :
    Disk.IsName name ∧ '/' ∉ name := by
  unfold namesWithoutExtension at h
  split at h
  · exact isName_of_mem_names h
  · rename_i stem hstem
    rcases List.mem_append.mp h with hfront | hlast
    · exact isName_of_mem_names (List.dropLast_subset _ hfront)
    · split at hlast
      · cases hlast
      · rename_i hdots
        obtain rfl := List.mem_singleton.mp hlast
        obtain ⟨full, hfull, rfl⟩ := exists_fileName?_of_stem? hstem
        obtain ⟨hname, hslash⟩ := isName_of_mem_components (name_mem_of_fileName? hfull)
        rw [not_or] at hdots
        exact ⟨⟨FileName.stem_ofText_ne_nil hname.1, hdots⟩,
          fun hmem => hslash (FileName.mem_of_mem_stem hmem)⟩

/-- The components of a path without an anchor and without steps up are names. -/
theorem IsPlain.components_eq_names (hp : p.IsPlain) (hup : .parent ∉ p.components) :
    p.components = p.names.map .name := by
  unfold names
  rw [hp.components_eq] at hup ⊢
  have hname : ∀ step ∈ p.steps, stepComponent step = .name step := by
    intro step hstep
    unfold stepComponent
    rw [if_neg]
    rintro rfl
    exact hup (List.mem_map.mpr ⟨_, hstep, rfl⟩)
  rw [List.map_congr_left hname, List.filterMap_map]
  simp [Function.comp_def, Component.name?]

end Names

end Path

end TestScaffold
