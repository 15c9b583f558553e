import TestScaffold.Proofs.Generation.ReadBack
import TestScaffold.Proofs.Source.ExportLineEndings
import TestScaffold.Proofs.Source.ImportLineEndings

/-!
Planned tests and line endings. A plan takes from the text of its source how the component is
exported and what is imported from where, and nothing else; both are the same when the lines of the
source end in a carriage return and a line feed.
-/

namespace TestScaffold

namespace TestPlan

variable {s : Settings} (source destination relative : Path) {t u : Text}

/-- What stands in a test depends on the export and the imports of its source alone. -/
theorem content_ofText_congr
    (hstyle : classifyExport t (identityOf source) = classifyExport u (identityOf source))
    (himports : (s.scan.scan t).map ImportStatement.imported =
      (s.scan.scan u).map ImportStatement.imported) :
    (ofText s source destination relative (some t)).content =
      (ofText s source destination relative (some u)).content := by
  have hmocks : (s.scan.scan t).map (Mock.ofImport s) = (s.scan.scan u).map (Mock.ofImport s) := by
    have hmock : Mock.ofImport s =
        (fun imported => Mock.ofImport s ⟨[], imported.1, imported.2⟩) ∘
          ImportStatement.imported :=
      rfl
    rw [hmock, ← List.map_map, himports, List.map_map]
  unfold ofText
  simp only [Option.map_some, Option.getD_some, Classified.value, hstyle, hmocks]

end TestPlan

/-- Line endings do not matter: with a carriage return before every line feed of a source, its scan
reports the same bindings of the same modules, its export is classified alike, and the planned test
has the same text. No line of the source may begin with an import without a clause, and the path of
a module may go over a line only where the import is left out. -/
theorem plan_withReturns {σ : Type} [FileStore σ] (s : Settings) (l : Location)
    (hline : '\n' ∉ l.source.text) (d : Path) (haccepted : l.testPath s.paths = .ok d) (t : Text)
    (hclause : ¬ t.HasClauselessImport)
    (hpaths : ∀ line ∈ importLines t, '\n' ∉ line.modulePath ∨ s.scan.LeavesOut line)
    (store store' : σ) (hread : FileStore.read store l.source = .ok t)
    (hread' : FileStore.read store' l.source = .ok t.withReturns) :
    (s.scan.scan t.withReturns).map (fun i => (i.modulePath, i.bindings)) =
        (s.scan.scan t).map (fun i => (i.modulePath, i.bindings)) ∧
      classifyExport t.withReturns (identityOf l.source) =
        classifyExport t (identityOf l.source) ∧
      ∃ p p', plan s store l = .ok p ∧ plan s store' l = .ok p' ∧ p'.content = p.content := by
  have hscan := ScanSettings.scan_withReturns hclause hpaths
  have hstyle := classifyExport_withReturns (not_mem_identityOf hline) t
  refine ⟨hscan, hstyle, ?_⟩
  obtain ⟨relative, hrelative, hplan⟩ := plan_of_testPath store haccepted
  obtain ⟨relative', hrelative', hplan'⟩ := plan_of_testPath store' haccepted
  obtain rfl : relative = relative' := by
    rw [hrelative] at hrelative'
    exact Except.ok.inj hrelative'
  rw [hread] at hplan
  rw [hread'] at hplan'
  exact ⟨_, _, hplan, hplan', TestPlan.content_ofText_congr l.source d relative hstyle hscan⟩

/-- A source whose imports and list of exports go over several lines. -/
def manyLinesSource : Text :=
  ("import Panel, \x7b\n  useId,\n  type Props as P\n\x7d\n  from './panel'\n" ++
    "export \x7b\n  Card\n  as default\n\x7d\n").toList

/-- The component is still the default export, and the module of both names is still mocked. -/
theorem plan_withReturns_manyLines :
    let l : Location := ⟨⟨"/p".toList⟩, ⟨"/p/src/ui/Card.tsx".toList⟩⟩
    let store := MemoryStore.empty.put l.source (some manyLinesSource)
    let store' := MemoryStore.empty.put l.source (some manyLinesSource.withReturns)
    '\n' ∉ l.source.text ∧
      l.testPath ({} : Settings).paths = .ok ⟨"/p/tests/ui/Card.test.tsx".toList⟩ ∧
      ¬ manyLinesSource.HasClauselessImport ∧
      (∀ line ∈ importLines manyLinesSource, '\n' ∉ line.modulePath) ∧
      (({} : Settings).scan.scan manyLinesSource.withReturns).map
          (fun i => (i.modulePath, i.bindings)) =
        [("./panel".toList, { defaultName := some "Panel".toList, names := ["useId".toList] })] ∧
      classifyExport manyLinesSource.withReturns "Card".toList = .matched .default ∧
      ∃ p p', plan {} store l = .ok p ∧ plan {} store' l = .ok p' ∧ p'.content = p.content := by
  intro l store store'
  have hline : '\n' ∉ l.source.text := by decide
  have haccepted : l.testPath ({} : Settings).paths = .ok ⟨"/p/tests/ui/Card.test.tsx".toList⟩ := by
    decide +kernel
  have hclause : ¬ manyLinesSource.HasClauselessImport := by decide +kernel
  have hpaths : ∀ line ∈ importLines manyLinesSource, '\n' ∉ line.modulePath := by decide +kernel
  obtain ⟨hscan, hstyle, hplans⟩ := plan_withReturns {} l hline _ haccepted manyLinesSource hclause
    (fun line hmem => Or.inl (hpaths line hmem)) store store' rfl rfl
  have himports : (({} : Settings).scan.scan manyLinesSource).map
      (fun i => (i.modulePath, i.bindings)) =
        [("./panel".toList, { defaultName := some "Panel".toList, names := ["useId".toList] })] := by
    decide +kernel
  have hdefault : classifyExport manyLinesSource (identityOf l.source) = .matched .default := by
    decide +kernel
  have hidentity : identityOf l.source = "Card".toList := by decide +kernel
  refine ⟨hline, haccepted, hclause, hpaths, hscan.trans himports, ?_, hplans⟩
  rw [← hidentity, hstyle]
  exact hdefault

end TestScaffold
