import TestScaffold.Proofs.Generation.ReadBack
import TestScaffold.Proofs.Skeleton.Rescan

/-!
Scanning a planned test as a source. Its mocks stay on their lines when the module paths in the
source do, and its import path can stand between quotes when the path of the source can. Then the
scan gives the import of the component alone.
-/

namespace TestScaffold

theorem Settings.oneLine_default : ({} : Settings).OneLine where
  aliasEnd := rfl
  aliasUnquoted := List.all_iff_forall_prop.mp (by decide)
  aliasLine := by decide
  template := ⟨by decide, by decide⟩

theorem unquoted_iff {t : Text} :
    (∀ c ∈ t, isQuote c = false) ↔ '\x27' ∉ t ∧ '\x22' ∉ t := by
  constructor
  · intro h
    exact ⟨fun hc => absurd (h _ hc) (by decide), fun hc => absurd (h _ hc) (by decide)⟩
  · rintro ⟨hsingle, hdouble⟩ c hc
    simp only [isQuote, Bool.or_eq_false_iff, beq_eq_false_iff_ne]
    exact ⟨fun heq => hsingle (heq ▸ hc), fun heq => hdouble (heq ▸ hc)⟩

/-- An import path can stand between quotes when the path of the source can. -/
theorem PathSettings.quotable_importPath {relative : Path}
    (h : ∀ c ∈ relative.text, isQuote c = false) :
    Quotable (({} : PathSettings).importPath relative) := by
  obtain ⟨hsingle, hdouble⟩ := unquoted_iff.mp h
  refine ⟨List.cons_ne_nil _ _, unquoted_iff.mpr ⟨?_, ?_⟩⟩
  · exact not_mem_importPath (by decide) (by decide) (by decide) hsingle
  · exact not_mem_importPath (by decide) (by decide) (by decide) hdouble

/-- Under the alias lies no tool of testing. -/
theorem isExcluded_importPath (relative : Path) :
    ({} : ScanSettings).isExcluded (({} : PathSettings).importPath relative) = false :=
  rfl

theorem Mock.not_mem_modulePathOf {s : PathSettings} {path : Text} (halias : '\n' ∉ s.aliasPrefix)
    (h : '\n' ∉ path) : '\n' ∉ modulePathOf s path := by
  unfold modulePathOf
  split
  · intro hmem
    rcases PathSettings.mem_of_mem_aliasPath hmem with hstart | hpath | hslash
    · exact halias hstart
    · exact h hpath
    · cases hslash
  · exact h

namespace TestPlan

variable {s : Settings} (source destination relative : Path) (text : Option Text)

/-- No line of a mock begins like an import. -/
theorem linesAvoid_mocks (hs : s.OneLine)
    (hmodules : ∀ t, text = some t → ∀ i ∈ s.scan.scan t, '\n' ∉ i.modulePath) :
    (Skeleton.mockText (ofText s source destination relative text).mocks).LinesAvoid 'i' := by
  have hreadable := readable_of_mem_mocks source destination relative text hs
  apply Skeleton.linesAvoid_mockText (by decide) (by decide) (by decide)
  · intro m hm
    obtain ⟨i, hi, rfl⟩ := List.mem_map.mp hm
    apply Mock.not_mem_modulePathOf hs.aliasLine
    -- Only a source that was read has imports.
    cases text with
    | none => cases hi
    | some t => exact hmodules t rfl i hi
  · exact fun m hm => (hreadable m hm).fields

end TestPlan

/-- Scanning a planned test gives the import of the component alone: the statement as it was
printed, with the import path and the name of the component, bound in the style of its export. This
holds with the default settings for any source whose path can be written into a test, if the name
of its component is an identifier and the module paths found in it stay on their lines. -/
theorem rescan_of_plan {σ : Type} [FileStore σ] (l : Location)
    (hquote : ∀ c ∈ l.source.text, isQuote c = false) (hline : '\n' ∉ l.source.text)
    (hidentity : isIdentifier (identityOf l.source) = true) (d : Path)
    (haccepted : l.testPath ({} : Settings).paths = .ok d) (store : σ)
    (hmodules : ∀ text, FileStore.read store l.source = .ok text →
      ∀ i ∈ ({} : Settings).scan.scan text, '\n' ∉ i.modulePath) :
    ∃ p, plan {} store l = .ok p ∧
      ({} : Settings).scan.scan p.content =
        [{ raw := componentImport p.identity p.style.value p.importPath
           modulePath := p.importPath
           bindings := match p.style.value with
             | .default => { defaultName := some p.identity }
             | .named => { names := [p.identity] } }] := by
  obtain ⟨relative, hrelative, hplan⟩ := plan_of_testPath store haccepted
  -- What stands in the path within the workspace stands in the path, dots and slashes apart.
  have hmade : relative.MadeFrom l.source :=
    Path.madeFrom_under? (Location.under?_of_relative hrelative)
  have hinner : ∀ c ∈ relative.text, isQuote c = false := by
    obtain ⟨hsingle, hdouble⟩ := unquoted_iff.mp hquote
    exact unquoted_iff.mpr ⟨hmade.not_mem (by decide) (by decide) hsingle,
      hmade.not_mem (by decide) (by decide) hdouble⟩
  have hpath : '\n' ∉ ({} : PathSettings).importPath relative :=
    PathSettings.not_mem_importPath (by decide) (by decide) (by decide)
      (hmade.not_mem (by decide) (by decide) hline)
  have hread : ∀ text, (FileStore.read store l.source).toOption = some text →
      FileStore.read store l.source = .ok text := by
    intro text htext
    cases hresult : FileStore.read store l.source with
    | error cause => simp [hresult, Except.toOption] at htext
    | ok found =>
      rw [hresult] at htext
      rw [Option.some.inj htext]
  have hmocks := TestPlan.linesAvoid_mocks l.source d relative
    (FileStore.read store l.source).toOption Settings.oneLine_default fun text htext =>
      hmodules text (hread text htext)
  refine ⟨_, hplan, ?_⟩
  exact Skeleton.scan_text_eq hidentity (identityOf_ne_type l.source)
    (PathSettings.quotable_importPath hinner) hpath hmocks (by decide)
    (isExcluded_importPath relative)

/-- A source with the framework, a relative import and an export by name. -/
def twoImportsSource : Text :=
  "import \x7b useId \x7d from 'react'\nimport b from './b'\nexport const Card = b\n".toList

def twoImportsFiles : MemoryStore :=
  MemoryStore.empty.put ⟨"/p/src/ui/Card.tsx".toList⟩ (some twoImportsSource)

/-- Neither of the two imports is found in the test. -/
theorem rescan_of_plan_twoImports :
    let l : Location := ⟨⟨"/p".toList⟩, ⟨"/p/src/ui/Card.tsx".toList⟩⟩
    (∀ c ∈ l.source.text, isQuote c = false) ∧ '\n' ∉ l.source.text ∧
      isIdentifier (identityOf l.source) = true ∧
      l.testPath ({} : Settings).paths = .ok ⟨"/p/tests/ui/Card.test.tsx".toList⟩ ∧
      (∀ i ∈ ({} : Settings).scan.scan twoImportsSource, '\n' ∉ i.modulePath) ∧
      ∃ p, plan {} twoImportsFiles l = .ok p ∧ p.mocks.length = 2 ∧
        ({} : Settings).scan.scan p.content =
          [⟨"import \x7b Card \x7d from \"@/ui/Card\"".toList, "@/ui/Card".toList,
            { names := ["Card".toList] }⟩] := by
  intro l
  have hquote : ∀ c ∈ l.source.text, isQuote c = false := List.all_iff_forall_prop.mp (by decide)
  have hline : '\n' ∉ l.source.text := by decide
  have hidentity : isIdentifier (identityOf l.source) = true := by decide +kernel
  have haccepted : l.testPath ({} : Settings).paths = .ok ⟨"/p/tests/ui/Card.test.tsx".toList⟩ := by
    decide +kernel
  have hmodules : ∀ i ∈ ({} : Settings).scan.scan twoImportsSource, '\n' ∉ i.modulePath := by
    decide +kernel
  refine ⟨hquote, hline, hidentity, haccepted, hmodules, ?_⟩
  obtain ⟨p, hplan, hscan⟩ := rescan_of_plan l hquote hline hidentity _ haccepted twoImportsFiles
    (fun text htext => by
      obtain rfl := Except.ok.inj htext
      exact hmodules)
  have hparts : (plan {} twoImportsFiles l).map
      (fun p => (p.mocks.length, p.identity, p.style.value, p.importPath)) =
        .ok (2, "Card".toList, .named, "@/ui/Card".toList) := by decide +kernel
  rw [hplan] at hparts
  simp only [Except.map, Except.ok.injEq, Prod.mk.injEq] at hparts
  obtain ⟨hmocks, hname, hstyle, hpath⟩ := hparts
  refine ⟨p, hplan, hmocks, ?_⟩
  rw [hscan, hname, hstyle, hpath]
  rfl

end TestScaffold
