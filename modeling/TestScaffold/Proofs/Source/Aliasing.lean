import TestScaffold.Mock
import TestScaffold.Proofs.Generation.Mirror
import TestScaffold.Proofs.Path.Resolution
import TestScaffold.Proofs.Path.Spelling

/-!
The names of modules. A mock is named for what the specifier of an import says after the steps at
its start, whatever directory these lead to. A test imports a source by the names that lead to it
from the directory of the sources. For a specifier that denotes this source the two agree just when
its steps lead to that directory.
-/

namespace TestScaffold

open TestScaffold.Path

def upSteps : Text → Nat
  | '.' :: '.' :: '/' :: t => upSteps t + 1
  | _ => 0

/-- The components of the source root that a path in the workspace loses. -/
def PathSettings.droppedRoot (s : PathSettings) (relative : Path) : List Component :=
  match s.sourceRoot with
  | some root => if (relative.under? ⟨root⟩).isSome then Path.components ⟨root⟩ else []
  | none => []

section Specifier

variable {specifier : Text}

theorem forwardSlashes_of_not_mem (h : '\\' ∉ specifier) :
    forwardSlashes specifier = specifier := by
  have hkept : ∀ c ∈ specifier, (if c = '\\' then '/' else c) = c := by
    intro c hc
    rw [if_neg]
    rintro rfl
    exact h hc
  unfold forwardSlashes
  rw [List.map_congr_left hkept, List.map_id']

variable {names : List Text}

/-- Names between slashes begin with no step. -/
theorem dropRelativeSteps_join (h : ∀ x ∈ names, Disk.IsName x ∧ '/' ∉ x) :
    dropRelativeSteps (Text.join ['/'] names) = Text.join ['/'] names := by
  by_cases hnil : names = []
  · rw [hnil]
    rfl
  have hfirst (segment rest : Text) (hsegment : '/' ∉ segment)
      (hjoin : Text.join ['/'] names = segment ++ '/' :: rest) : Disk.IsName segment := by
    have hfields := Text.fields_join hnil fun x hx => (h x hx).2
    rw [hjoin, Text.fields_append_slash, Text.fields_of_not_mem hsegment] at hfields
    exact (h segment (hfields ▸ List.mem_cons_self)).1
  have hup : ¬ (Text.join ['/'] names).startsWith "../".toList = true := by
    rw [Text.startsWith_iff]
    rintro ⟨rest, hrest⟩
    exact (hfirst ['.', '.'] rest (by decide) hrest).2.2 rfl
  have hhere : Text.after? "./".toList (Text.join ['/'] names) = none := by
    rw [Option.eq_none_iff_forall_ne_some]
    intro rest hrest
    have hjoin := Text.after?_eq_some_iff.mp hrest
    exact (hfirst ['.'] rest (by decide) hjoin).2.1 rfl
  unfold dropRelativeSteps
  rw [if_neg hup, hhere, Option.getD_none]

end Specifier

section Source

variable {s : PathSettings} {a b relative root : Path} {specifier : Text}

theorem PathSettings.importPath_eq (h : '\\' ∉ relative.text) :
    s.importPath relative = s.aliasPrefix ++
      Text.join ['/'] (s.withoutSourceRoot relative).namesWithoutExtension := by
  have hinner := s.not_mem_withoutSourceRoot (by decide) (by decide) h
  have hjoin : '\\' ∉ Text.join ['/'] (s.withoutSourceRoot relative).namesWithoutExtension := by
    intro hmem
    rcases Text.mem_join hmem with hsep | ⟨name, hname, hc⟩
    · exact absurd (List.mem_singleton.mp hsep) (by decide)
    · exact not_mem_namesWithoutExtension hname hinner hc
  unfold importPath aliasPath
  rw [forwardSlashes_of_not_mem hjoin,
    dropRelativeSteps_join fun x hx => isName_of_mem_namesWithoutExtension hx]

theorem PathSettings.components_withoutSourceRoot (s : PathSettings) (relative : Path) :
    relative.components =
      s.droppedRoot relative ++ (s.withoutSourceRoot relative).components := by
  unfold droppedRoot withoutSourceRoot
  cases s.sourceRoot with
  | none => rfl
  | some root =>
    cases hunder : relative.under? ⟨root⟩ with
    | none => simp [hunder]
    | some inner => simpa [hunder] using components_under? hunder

end Source

end TestScaffold
