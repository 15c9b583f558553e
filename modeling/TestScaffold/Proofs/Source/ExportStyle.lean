import TestScaffold.Proofs.Source.ExportList

/-!
How a text exports a name, as a grammar says it. A default export stands in the text by its form,
or as a specifier `name as default`; a named one by its form, or as a specifier of the name alone.
The classification says which of the two the text has, a default export first.
-/

namespace TestScaffold

/-- The text has a specifier whose words, with one space between them, are `collapsed`. -/
def ListsExport (t collapsed : Text) : Prop :=
  ∃ specifier, HasSpecifier t specifier ∧ spaced specifier.words = collapsed

def ExportsByDefault (t name : Text) : Prop :=
  t.Shows (ExportForm.byDefault name) ∨ ListsExport t (name ++ " as default".toList)

def ExportsByName (t name : Text) : Prop :=
  t.Shows (ExportForm.byName name) ∨ ListsExport t name

theorem eq_of_cutAtAs? {words before after : List Text} (h : cutAtAs? words = some (before, after)) :
    words = before ++ "as".toList :: after ∧ before ≠ [] ∧ after ≠ [] := by
  induction words generalizing before after with
  | nil => cases h
  | cons word words ih =>
    cases words with
    | nil => cases h
    | cons next rest =>
      unfold cutAtAs? at h
      split at h
      · rename_i hcut
        obtain ⟨rfl, hne⟩ := hcut
        cases h
        exact ⟨rfl, List.cons_ne_nil _ _, hne⟩
      · obtain ⟨⟨front, back⟩, hrest, heq⟩ := Option.map_eq_some_iff.mp h
        cases heq
        obtain ⟨hwords, -, hback⟩ := ih hrest
        exact ⟨congrArg (word :: ·) hwords, List.cons_ne_nil _ _, hback⟩

theorem spaced_default (name : Text) :
    spaced [name, "as".toList, "default".toList] = name ++ " as default".toList := by
  have hend : " as default".toList = [' '] ++ ("as".toList ++ ([' '] ++ "default".toList)) := rfl
  rw [hend]
  simp only [spaced, Text.join, List.intercalate_cons_cons, List.intercalate_singleton,
    List.append_assoc]

section

variable {name : Text} {words : List Text} (hname : ∀ c ∈ name, isBlank c = false)
  (hwords : ∀ w ∈ words, w ≠ [] ∧ ∀ c ∈ w, isBlank c = false)
include hname hwords

theorem eq_of_spaced_eq_name (hne : words ≠ []) (h : spaced words = name) : words = [name] := by
  have hcut : name.words = words := by
    rw [← h]
    exact Text.words_join hwords
  have hfull : name ≠ [] := by
    rintro rfl
    exact hne hcut.symm
  rw [← hcut]
  exact Text.words_of_word hfull hname

theorem eq_of_spaced_eq_default (h : spaced words = name ++ " as default".toList) :
    words = [name, "as".toList, "default".toList] := by
  have hcut : (name ++ " as default".toList).words = words := by
    rw [← h]
    exact Text.words_join hwords
  have hspace : ∀ c ∈ [' '], isBlank c = true := List.forall_mem_singleton.mpr (by decide)
  have hend : Text.words "as default".toList = ["as".toList, "default".toList] := by decide +kernel
  by_cases hnil : name = []
  · -- Without a name the first word would be `as`, and no space would stand before it.
    have hshort : words = ["as".toList, "default".toList] := by
      rw [← hcut, hnil]
      exact (Text.words_append_of_forall hspace "as default".toList).trans hend
    rw [hshort, hnil] at h
    exact absurd h (by decide)
  · rw [← hcut, ← hend]
    exact Text.words_append_append hnil hname hspace (List.cons_ne_nil _ _) "as default".toList

/-- The specifier of a default export has three words: the name, `as` and `default`. -/
theorem isDefaultSpecifier_iff :
    isDefaultSpecifier name words = true ↔ spaced words = name ++ " as default".toList := by
  constructor
  · intro h
    unfold isDefaultSpecifier at h
    split at h
    · rename_i before after hcut
      rw [Bool.and_eq_true, beq_iff_eq, beq_iff_eq] at h
      obtain ⟨hbefore, hafter⟩ := h
      obtain ⟨rfl, hne, hlast⟩ := eq_of_cutAtAs? hcut
      rw [List.forall_mem_append, List.forall_mem_cons] at hwords
      obtain ⟨hfront, -, hback⟩ := hwords
      have hdefault : ∀ c ∈ "default".toList, isBlank c = false :=
        List.all_iff_forall_prop.mp (by decide)
      rw [eq_of_spaced_eq_name hname hfront hne hbefore,
        eq_of_spaced_eq_name hdefault hback hlast hafter]
      exact spaced_default name
    · cases h
  · intro h
    rw [eq_of_spaced_eq_default hname hwords h]
    have hcut : cutAtAs? [name, "as".toList, "default".toList] = some ([name], ["default".toList]) :=
      if_pos ⟨rfl, List.cons_ne_nil _ _⟩
    have hsingle : ∀ w : Text, spaced [w] = w := by
      simp [spaced, Text.join]
    unfold isDefaultSpecifier
    simp only [hcut, hsingle, beq_self_eq_true, Bool.and_self]

end

/-- A specifier is a text's when its words are among those that are read. -/
theorem listsExport_iff {t collapsed : Text} :
    ListsExport t collapsed ↔ ∃ words ∈ exportSpecifiers t, spaced words = collapsed := by
  constructor
  · rintro ⟨specifier, hspecifier, heq⟩
    exact ⟨_, mem_exportSpecifiers.mpr ⟨specifier, hspecifier, rfl⟩, heq⟩
  · rintro ⟨words, hwords, heq⟩
    obtain ⟨specifier, hspecifier, rfl⟩ := mem_exportSpecifiers.mp hwords
    exact ⟨specifier, hspecifier, heq⟩

theorem isDefaultExport_iff {t name : Text} (hname : ∀ c ∈ name, isBlank c = false) :
    isDefaultExport t name = true ↔ ExportsByDefault t name := by
  have hspecifier : (exportSpecifiers t).any (isDefaultSpecifier name) = true ↔
      ListsExport t (name ++ " as default".toList) := by
    rw [List.any_eq_true, listsExport_iff]
    have hwords : ∀ words ∈ exportSpecifiers t, isDefaultSpecifier name words = true ↔
        spaced words = name ++ " as default".toList := by
      intro words hwords
      obtain ⟨specifier, -, rfl⟩ := mem_exportSpecifiers.mp hwords
      exact isDefaultSpecifier_iff hname fun w hw =>
        ⟨Text.words_ne_nil hw, Text.not_isBlank_of_mem_words hw⟩
    exact exists_congr fun words => and_congr_right (hwords words)
  unfold isDefaultExport
  rw [Bool.or_eq_true, defaultExport_iff, hspecifier]
  rfl

theorem isNamedExport_iff {t name : Text} :
    isNamedExport t name = true ↔ ExportsByName t name := by
  have hspecifier : (exportSpecifiers t).any (spaced · == name) = true ↔ ListsExport t name := by
    rw [List.any_eq_true, listsExport_iff]
    simp only [beq_iff_eq]
  unfold isNamedExport
  rw [Bool.or_eq_true, namedExport_iff, hspecifier]
  rfl

/-- A text is classified as the grammar of exports says, for a name without white space: as a
default export when it has one, else as a named export when it has one, and else the default style
is taken for want of either. -/
theorem classifyExport_iff_grammar (t name : Text) (hname : ∀ c ∈ name, isBlank c = false) :
    (classifyExport t name = .matched .default ↔ ExportsByDefault t name) ∧
      (classifyExport t name = .matched .named ↔
        ¬ ExportsByDefault t name ∧ ExportsByName t name) ∧
      (classifyExport t name = .fallback .default ↔
        ¬ ExportsByDefault t name ∧ ¬ ExportsByName t name) := by
  rw [← isDefaultExport_iff hname, ← isNamedExport_iff]
  unfold classifyExport
  cases hdefault : isDefaultExport t name
  · cases hnamed : isNamedExport t name <;> simp
  · simp

/-- A dollar sign stands for itself, and no word begins before it: the text has no declaration of
the name, but its second list has the name alone. -/
theorem classifyExport_iff_grammar_dollar :
    let t := "export \x7b x as y \x7d\nexport const $a = 1\nexport\x7b\n $ ,\x7d".toList
    let name := "$".toList
    (∀ c ∈ name, isBlank c = false) ∧ ¬ ExportsByDefault t name ∧ ExportsByName t name := by
  intro t name
  have hname : ∀ c ∈ name, isBlank c = false := List.all_iff_forall_prop.mp (by decide)
  have hnamed : classifyExport t name = .matched .named := by decide +kernel
  exact ⟨hname, (classifyExport_iff_grammar t name hname).2.1.mp hnamed⟩

end TestScaffold
