import TestScaffold.Skeleton

/-!
What is planned for one source before anything is written, and what became of it afterwards.
-/

namespace TestScaffold

/-- The test of one source, ready to be written. -/
structure TestPlan where
  source : Path
  destination : Path
  identity : Text
  kind : FileKind
  importPath : Text
  style : Classified ExportStyle
  imports : Classified (List ImportStatement)
  mocks : List Mock
  content : Text
  deriving DecidableEq, Repr

structure CreatedTest where
  source : Path
  destination : Path
  identity : Text
  kind : FileKind
  style : Classified ExportStyle
  mockCount : Nat
  sourceReadable : Bool
  deriving DecidableEq, Repr

inductive Outcome
  | created (test : CreatedTest)
  /-- The destination existed and was not to be overwritten. -/
  | skipped (destination : Path)
  deriving DecidableEq, Repr

def Outcome.destination : Outcome → Path
  | created test => test.destination
  | skipped destination => destination

namespace TestPlan

/-- The plan for a source with this text, whose path in the workspace is `relative`. Without a
text there are no imports and the style is a fallback. -/
def ofText (s : Settings) (source destination relative : Path) (text : Option Text) : TestPlan :=
  let identity := identityOf source
  let kind := s.scan.kindOf source
  let importPath := s.paths.importPath relative
  let style := (text.map fun t => classifyExport t identity).getD unreadExport
  let imports := (text.map fun t => Classified.matched (s.scan.scan t)).getD (.fallback [])
  let mocks := imports.value.map (Mock.ofImport s)
  { source, destination, identity, kind, importPath, style, imports, mocks
    content := Skeleton.text ⟨identity, style.value, kind, importPath, mocks⟩ s.template }

/-- What is reported once the plan is carried out. -/
def summary (p : TestPlan) : CreatedTest where
  source := p.source
  destination := p.destination
  identity := p.identity
  kind := p.kind
  style := p.style
  mockCount := p.mocks.length
  sourceReadable := !p.imports.isFallback

end TestPlan

end TestScaffold
