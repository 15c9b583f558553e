import TestScaffold.Mock
import TestScaffold.Proofs.Skeleton.Rescan

/-!
Specifiers that lead from the importing file: a dot or two, alone or before a slash of either kind.
An import is taken for relative only where a slash follows the dots, while the steps that are
dropped from a specifier may end in a backslash too. So the specifiers of the other forms stand in
the mocks as they are written, and under the usual alias no others of them are left there.
-/

namespace TestScaffold

/-- Whether a specifier leads from the directory of the file that imports it. -/
def leadsFromFile (specifier : Text) : Bool :=
  [".".toList, "..".toList].contains specifier ||
    ["./".toList, "../".toList, ".\\".toList, "..\\".toList].any specifier.startsWith

/-- Whether a specifier begins with a step that ends in a backslash. -/
def startsWithBackslashStep (specifier : Text) : Bool :=
  specifier.startsWith ".\\".toList || specifier.startsWith "..\\".toList

/-- Whether a specifier leads from the importing file but is not taken for relative. -/
def isOverlooked (specifier : Text) : Bool :=
  [".".toList, "..".toList].contains specifier || startsWithBackslashStep specifier

theorem leadsFromFile_eq (specifier : Text) :
    leadsFromFile specifier = (isRelativeModule specifier || isOverlooked specifier) := by
  unfold leadsFromFile isRelativeModule isOverlooked startsWithBackslashStep
  simp only [List.any_cons, List.any_nil, Bool.or_false]
  ac_rfl

theorem isRelativeModule_of_isOverlooked {specifier : Text} (h : isOverlooked specifier = true) :
    isRelativeModule specifier = false := by
  rcases Bool.or_eq_true_iff.mp h with hdots | hstep
  · rw [List.contains_iff_mem, List.mem_cons, List.mem_singleton] at hdots
    rcases hdots with rfl | rfl
    · decide
    · decide
  · rcases Bool.or_eq_true_iff.mp hstep with hhere | hup
    · obtain ⟨rest, rfl⟩ := Text.startsWith_iff.mp hhere
      rfl
    · obtain ⟨rest, rfl⟩ := Text.startsWith_iff.mp hup
      rfl

theorem Text.startsWith_cons (c p : Char) (t start : Text) :
    Text.startsWith (c :: t) (p :: start) = (decide (c = p) && Text.startsWith t start) := by
  by_cases h : c = p
  · simp [Text.startsWith, Text.after?, h]
  · simp [Text.startsWith, Text.after?, h]

theorem forwardSlashes_cons (c : Char) (t : Text) :
    forwardSlashes (c :: t) = (if c = '\\' then '/' else c) :: forwardSlashes t :=
  rfl

/-- With slashes for backslashes, a text begins with what stood before a slash of either kind. -/
theorem startsWith_forwardSlashes {start : Text} (hslash : '/' ∉ start) (hback : '\\' ∉ start)
    (t : Text) :
    (forwardSlashes t).startsWith (start ++ ['/']) =
      (t.startsWith (start ++ ['/']) || t.startsWith (start ++ ['\\'])) := by
  induction start generalizing t with
  | nil =>
    cases t with
    | nil => rfl
    | cons c t =>
      have hslashes : decide ((if c = '\\' then '/' else c) = '/') =
          (decide (c = '/') || decide (c = '\\')) := by
        by_cases hc : c = '\\'
        · simp [hc]
        · simp [hc]
      have hempty (u : Text) : Text.startsWith u [] = true := rfl
      rw [forwardSlashes_cons, List.nil_append, List.nil_append, Text.startsWith_cons,
        Text.startsWith_cons, Text.startsWith_cons, hslashes, hempty, hempty, Bool.and_true,
        Bool.and_true, Bool.and_true]
  | cons p start ih =>
    rw [List.mem_cons, not_or] at hslash hback
    cases t with
    | nil => rfl
    | cons c t =>
      -- Neither slash is a character of `start`, so both texts agree on the one that stands here.
      have hsame : decide ((if c = '\\' then '/' else c) = p) = decide (c = p) := by
        by_cases hc : c = '\\'
        · simp [hc, hslash.1, hback.1]
        · simp [hc]
      rw [forwardSlashes_cons, List.cons_append, List.cons_append, Text.startsWith_cons,
        Text.startsWith_cons, Text.startsWith_cons, hsame, ih hslash.2 hback.2,
        Bool.and_or_distrib_left]

/-- Once its backslashes are slashes, a specifier is relative when it was so before, or when its
first step ended in a backslash. -/
theorem isRelativeModule_forwardSlashes (specifier : Text) :
    isRelativeModule (forwardSlashes specifier) =
      (isRelativeModule specifier || startsWithBackslashStep specifier) := by
  have hhere : (forwardSlashes specifier).startsWith "./".toList =
      (specifier.startsWith "./".toList || specifier.startsWith ".\\".toList) :=
    startsWith_forwardSlashes (by decide : '/' ∉ ['.']) (by decide) specifier
  have hup : (forwardSlashes specifier).startsWith "../".toList =
      (specifier.startsWith "../".toList || specifier.startsWith "..\\".toList) :=
    startsWith_forwardSlashes (by decide : '/' ∉ ['.', '.']) (by decide) specifier
  unfold isRelativeModule startsWithBackslashStep
  rw [hhere, hup]
  ac_rfl

theorem length_dropUpSteps_le (t : Text) : (dropUpSteps t).length ≤ t.length := by
  induction t using dropUpSteps.induct with
  | case1 t ih =>
    rw [dropUpSteps, List.length_cons, List.length_cons, List.length_cons]
    omega
  | case2 t hnot =>
    rw [dropUpSteps]
    exact hnot

/-- A relative specifier loses at least one step. -/
theorem length_dropRelativeSteps_lt {t : Text} (h : isRelativeModule t = true) :
    (dropRelativeSteps t).length < t.length := by
  unfold dropRelativeSteps
  by_cases hup : t.startsWith "../".toList = true
  · obtain ⟨rest, rfl⟩ := Text.startsWith_iff.mp hup
    have hdrop : dropUpSteps ("../".toList ++ rest) = dropUpSteps rest := rfl
    have hlength : ("../".toList ++ rest).length = 3 + rest.length := List.length_append
    have hle := length_dropUpSteps_le rest
    rw [if_pos hup, hdrop, hlength]
    omega
  · have hhere := (Bool.or_eq_true_iff.mp h).resolve_right hup
    obtain ⟨rest, rfl⟩ := Text.startsWith_iff.mp hhere
    have hlength : ("./".toList ++ rest).length = 2 + rest.length := List.length_append
    rw [if_neg hup, Text.after?_eq_some_iff.mpr rfl, Option.getD_some, hlength]
    omega

/-- Steps are dropped from the relative specifiers and from no others. -/
theorem dropRelativeSteps_eq_self_iff {t : Text} :
    dropRelativeSteps t = t ↔ isRelativeModule t = false := by
  constructor
  · -- A text without its first step is shorter.
    intro hself
    rw [← Bool.not_eq_true]
    intro hrelative
    have hlt := length_dropRelativeSteps_lt hrelative
    rw [hself] at hlt
    exact Nat.lt_irrefl _ hlt
  · intro h
    obtain ⟨hhere, hup⟩ := Bool.or_eq_false_iff.mp h
    have hnone : Text.after? "./".toList t = none :=
      Option.isNone_iff_eq_none.mp (Option.isSome_eq_false_iff.mp hhere)
    unfold dropRelativeSteps
    rw [if_neg (ne_true_of_eq_false hup), hnone, Option.getD_none]

/-- A specifier is shortened for its alias when it is relative, and also when its first step ends in
a backslash. -/
theorem PathSettings.aliasPath_ne_iff (s : PathSettings) (specifier : Text) :
    s.aliasPath specifier ≠ s.aliasPrefix ++ forwardSlashes specifier ↔
      isRelativeModule specifier = true ∨ startsWithBackslashStep specifier = true := by
  unfold aliasPath
  rw [ne_eq, List.append_cancel_left_eq, dropRelativeSteps_eq_self_iff, Bool.not_eq_false,
    isRelativeModule_forwardSlashes, Bool.or_eq_true]

namespace Mock

variable {s : PathSettings} {specifier : Text}

theorem modulePathOf_of_isOverlooked (h : isOverlooked specifier = true) :
    modulePathOf s specifier = specifier := by
  unfold modulePathOf
  rw [isRelativeModule_of_isOverlooked h, if_neg Bool.false_ne_true]

/-- The name of a mock leads from the importing file just when the specifier does and was not taken
for relative. -/
theorem leadsFromFile_modulePathOf (halias : s.aliasPrefix = "@/".toList) (specifier : Text) :
    leadsFromFile (modulePathOf s specifier) = isOverlooked specifier := by
  unfold modulePathOf
  by_cases hrelative : isRelativeModule specifier = true
  · have hnot : isOverlooked specifier = false := by
      rw [← Bool.not_eq_true]
      intro h
      rw [isRelativeModule_of_isOverlooked h] at hrelative
      exact Bool.false_ne_true hrelative
    rw [if_pos hrelative, PathSettings.aliasPath, halias, hnot]
    rfl
  · rw [if_neg hrelative, leadsFromFile_eq, eq_false_of_ne_true hrelative, Bool.false_or]

/-- The specifiers that still lead from the file once they are names of mocks. -/
theorem filter_leadsFromFile (halias : s.aliasPrefix = "@/".toList) (specifiers : List Text) :
    (specifiers.map (modulePathOf s)).filter leadsFromFile = specifiers.filter isOverlooked := by
  induction specifiers with
  | nil => rfl
  | cons specifier rest ih =>
    rw [List.map_cons, List.filter_cons, List.filter_cons, leadsFromFile_modulePathOf halias, ih]
    by_cases h : isOverlooked specifier = true
    · rw [if_pos h, if_pos h, modulePathOf_of_isOverlooked h]
    · rw [if_neg h, if_neg h]

end Mock

open Written in
/-- What can be quoted on one line is the specifier of an import in some source. -/
theorem exists_mem_scan {s : ScanSettings} {specifier : Text} (h : Quotable specifier)
    (hline : '\n' ∉ specifier) (hkept : s.isExcluded specifier = false) :
    ∃ text, ∃ i ∈ s.scan text, i.modulePath = specifier := by
  let name : DefaultName := ⟨⟨"index".toList, by decide +kernel⟩, by decide⟩
  let declaration := componentDeclaration name .default (.ofPath h hline)
  have hstatement := statement?_componentDeclaration name .default h hline hkept
  rw [Declaration.statement?_line] at hstatement
  exact ⟨(Item.declaration declaration).text, _, Declaration.mem_scan hstatement, rfl⟩

/-- Which of the specifiers that lead from the importing file survive into the mocks of a source,
under the usual alias: just the overlooked ones, as they are written, and there is a source for each
of these that can be quoted on a line and is not excluded. The two readings of a specifier part at
backslashes only: a specifier is shortened for its alias when it is taken for relative, and also
when its first step ends in a backslash. -/
theorem relative_mocks_eq_overlooked (s : Settings) (halias : s.paths.aliasPrefix = "@/".toList) :
    (∀ text,
      (((s.scan.scan text).map (Mock.ofImport s)).map Mock.modulePath).filter leadsFromFile =
        ((s.scan.scan text).map ImportStatement.modulePath).filter isOverlooked) ∧
    (∀ specifier, isOverlooked specifier = true → Quotable specifier → '\n' ∉ specifier →
      s.scan.isExcluded specifier = false →
      ∃ text, ∃ i ∈ s.scan.scan text, (Mock.ofImport s i).modulePath = specifier) ∧
    ∀ specifier, s.paths.aliasPath specifier ≠ s.paths.aliasPrefix ++ forwardSlashes specifier ↔
      isRelativeModule specifier = true ∨ startsWithBackslashStep specifier = true := by
  refine ⟨fun text => ?_, fun specifier hoverlooked hquotable hline hkept => ?_,
    s.paths.aliasPath_ne_iff⟩
  · rw [← Mock.filter_leadsFromFile halias, List.map_map, List.map_map]
    rfl
  · obtain ⟨text, i, hmem, rfl⟩ := exists_mem_scan hquotable hline hkept
    exact ⟨text, i, hmem, Mock.modulePathOf_of_isOverlooked hoverlooked⟩

/-- The directory itself and a step with a backslash are left to the mocks as they stand. -/
theorem relative_mocks_eq_overlooked_mixed :
    let s : Settings := {}
    let text := "import index from '.'\nimport a from '..\\a'\nimport b from './b'\n".toList
    let up := "..\\a".toList
    s.paths.aliasPrefix = "@/".toList ∧
      (((s.scan.scan text).map (Mock.ofImport s)).map Mock.modulePath).filter leadsFromFile =
        [".".toList, up] ∧
      isOverlooked up = true ∧ Quotable up ∧ '\n' ∉ up ∧ s.scan.isExcluded up = false ∧
      ∃ text, ∃ i ∈ s.scan.scan text, (Mock.ofImport s i).modulePath = up := by
  intro s text up
  have halias : s.paths.aliasPrefix = "@/".toList := rfl
  have hfound : ((s.scan.scan text).map ImportStatement.modulePath).filter isOverlooked =
      [".".toList, up] := by
    decide +kernel
  have hoverlooked : isOverlooked up = true := by decide
  have hquotable : Quotable up := ⟨by decide, List.all_iff_forall_prop.mp (by decide)⟩
  have hline : '\n' ∉ up := by decide
  have hkept : s.scan.isExcluded up = false := by decide
  obtain ⟨hmocks, hsource, -⟩ := relative_mocks_eq_overlooked s halias
  exact ⟨halias, (hmocks text).trans hfound, hoverlooked, hquotable, hline, hkept,
    hsource up hoverlooked hquotable hline hkept⟩

end TestScaffold
