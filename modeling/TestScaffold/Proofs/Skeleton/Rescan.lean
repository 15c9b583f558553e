import TestScaffold.Proofs.Skeleton.Lines
import TestScaffold.Proofs.Source.RoundTrip

/-!
Scanning a test as a source. The imports of a test are declarations as a source writes them, so
they are found with their clauses; no line of a mock or of the suite begins like one of them. What
renders markup belongs to the tools of testing, so only the import of the component remains.
-/

namespace TestScaffold

namespace Written

def noGap : Gap :=
  ⟨[], List.forall_mem_nil _⟩

def oneSpace : Space :=
  ⟨⟨[' '], List.forall_mem_singleton.mpr (by decide)⟩, List.cons_ne_nil _ _⟩

/-- A module path as tests quote it. -/
def ModuleText.ofPath {path : Text} (h : Quotable path) (hline : '\n' ∉ path) : ModuleText :=
  ⟨'\x22', rfl, path, h.ne_nil, h.unquoted, hline⟩

/-- An import as tests write it: with single spaces, and nothing after the module path. -/
def Declaration.inTest (clause : Clause) (module : ModuleText) : Declaration where
  afterImport := oneSpace
  clause := clause
  beforeFrom := oneSpace
  afterFrom := oneSpace
  module := module
  ending := ⟨noGap, none⟩

/-- What the import of a component says of its name. -/
def componentNames (identity : DefaultName) : ExportStyle → Names
  | .default => .default identity
  | .named =>
    let entry : Entry := ⟨oneSpace.toGap, .value identity.toIdentifier none, oneSpace.toGap⟩
    .group (.braces ⟨[entry], none⟩)

def componentDeclaration (identity : DefaultName) (style : ExportStyle) (module : ModuleText) :
    Declaration :=
  .inTest (.value (componentNames identity style)) module

theorem raw_inTest (clause : Clause) {path : Text} (h : Quotable path) (hline : '\n' ∉ path) :
    (Declaration.inTest clause (.ofPath h hline)).line.raw =
      "import ".toList ++ clause.text ++ (" from \"".toList ++ path ++ ['\x22']) := by
  have hword : "import ".toList = importWord ++ [' '] := rfl
  have hfrom : " from \"".toList = [' '] ++ ("from".toList ++ [' ']) ++ ['\x22'] := rfl
  rw [hword, hfrom]
  simp [Declaration.line, Declaration.body, Declaration.head, Declaration.inTest, oneSpace,
    ModuleText.ofPath, ModuleText.quotation, Quotation.text, Ending.terminator]

theorem text_inTest (clause : Clause) {path : Text} (h : Quotable path) (hline : '\n' ∉ path) :
    (Item.declaration (.inTest clause (.ofPath h hline))).text =
      (Declaration.inTest clause (.ofPath h hline)).line.raw ++ ['\n'] := by
  simp [Item.text, Declaration.line, Declaration.inTest, noGap, Ending.terminator, Ending.text]

theorem text_componentNames (identity : DefaultName) (style : ExportStyle) (path : Text) :
    "import ".toList ++ (componentNames identity style).text ++
      (" from \"".toList ++ path ++ ['\x22']) = componentImport identity.text style path := by
  cases style with
  | default => rfl
  | named =>
    have hopen : "import \x7b ".toList = "import ".toList ++ ['\x7b', ' '] := rfl
    have hclose : " \x7d".toList = [' ', '\x7d'] := rfl
    unfold componentImport
    rw [hopen, hclose]
    simp [componentNames, Names.text, Group.text, Braces.text, Braces.parts, Entry.text,
      Specifier.text, oneSpace, Text.join]

/-- The name of the component, bound in the style of its export. -/
def componentBindings (identity : Text) : ExportStyle → Bindings
  | .default => { defaultName := some identity }
  | .named => { names := [identity] }

theorem bindings_componentNames (identity : DefaultName) (style : ExportStyle) :
    (componentNames identity style).bindings = componentBindings identity.text style := by
  cases style <;> rfl

/-- The import of the component is read as it was written. -/
theorem statement?_componentDeclaration {s : ScanSettings} (identity : DefaultName)
    (style : ExportStyle) {path : Text} (h : Quotable path) (hline : '\n' ∉ path)
    (hkept : s.isExcluded path = false) :
    s.statement? (componentDeclaration identity style (.ofPath h hline)).line =
      some ⟨componentImport identity.text style path, path,
        componentBindings identity.text style⟩ := by
  have hraw := raw_inTest (.value (componentNames identity style)) h hline
  have hstatement : s.statement? (componentDeclaration identity style (.ofPath h hline)).line =
      (Bindings.ofClause? (componentNames identity style).text).map fun bindings =>
        ⟨(componentDeclaration identity style (.ofPath h hline)).line.raw, path, bindings⟩ :=
    if_neg (ne_true_of_eq_false hkept)
  rw [hstatement, ofClause?_names, bindings_componentNames]
  unfold componentDeclaration
  rw [hraw, Clause.text, text_componentNames]
  rfl

/-- The import of what renders markup, as it stands in a test. -/
def renderDeclaration : Declaration :=
  let render : Identifier := ⟨"render".toList, by decide +kernel⟩
  let screen : Identifier := ⟨"screen".toList, by decide +kernel⟩
  let first : Entry := ⟨oneSpace.toGap, .value render none, noGap⟩
  let second : Entry := ⟨oneSpace.toGap, .value screen none, oneSpace.toGap⟩
  have hmodule : Quotable "@testing-library/react".toList :=
    ⟨by decide, List.all_iff_forall_prop.mp (by decide)⟩
  .inTest (.value (.group (.braces ⟨[first, second], none⟩))) (.ofPath hmodule (by decide))

theorem text_renderDeclaration :
    (Item.declaration renderDeclaration).text =
      ({} : TemplateSettings).renderImport ++ ['\n'] := by
  decide +kernel

end Written

theorem Text.LinesAvoid.importLines_append {t : Text} (h : t.LinesAvoid 'i') (rest : Text) :
    importLines (t ++ rest) = importLines rest :=
  h.finds_append looksAtLines_importAt importAt_of_ne (by decide) rest

theorem Written.Declaration.importLines_append (d : Declaration) (rest : Text) :
    importLines ((Item.declaration d).text ++ rest) = d.line :: importLines rest :=
  d.finds_text_append rest

namespace Skeleton

open Written

variable {k : Skeleton}

/-- The imports of a test are the one of what renders markup, if any, and the component's. -/
theorem importLines_text (identity : DefaultName) (hidentity : identity.text = k.identity)
    (hpath : Quotable k.importPath) (hline : '\n' ∉ k.importPath)
    (hmocks : (mockText k.mocks).LinesAvoid 'i') :
    importLines (k.text {}) =
      (match k.kind with
        | .markup => [renderDeclaration.line]
        | .plain => []) ++
      [(componentDeclaration identity k.style (.ofPath hpath hline)).line] := by
  let component := componentDeclaration identity k.style (.ofPath hpath hline)
  have hcomponent : componentImport k.identity k.style k.importPath ++ ['\n'] =
      (Item.declaration component).text := by
    have hraw := raw_inTest (.value (componentNames identity k.style)) hpath hline
    rw [Clause.text, text_componentNames, hidentity] at hraw
    rw [← hraw]
    exact (text_inTest _ hpath hline).symm
  have hname : '\n' ∉ k.identity := by
    rw [← hidentity]
    exact identity.not_mem (by decide)
  have hend : Text.LinesAvoid 'i' (['\n'] ++ k.suiteText) :=
    Text.linesAvoid_lineFeed.append
      (k.linesAvoid_suiteText hname (by decide) (by decide) (by decide))
  -- After the component's import nothing is found any more.
  have hlast : importLines ((Item.declaration component).text ++ (['\n'] ++ k.suiteText)) =
      [component.line] := by
    have hnone := hend.importLines_append []
    rw [List.append_nil] at hnone
    rw [component.importLines_append, hnone]
    rfl
  unfold text importText
  simp only [List.append_assoc]
  rw [hmocks.importLines_append]
  cases hkind : k.kind with
  | plain =>
    rw [List.nil_append, ← List.append_assoc (componentImport _ _ _), hcomponent, hlast,
      List.nil_append]
  | markup =>
    dsimp only
    rw [← List.append_assoc (componentImport _ _ _), hcomponent, ← text_renderDeclaration,
      renderDeclaration.importLines_append, hlast, List.singleton_append]

/-- The scan of a test gives the import of the component alone, provided that the module that
renders markup is excluded and the component is not. -/
theorem scan_text_eq {s : ScanSettings} (hname : isIdentifier k.identity = true)
    (hne : k.identity ≠ typeKeyword) (hpath : Quotable k.importPath)
    (hline : '\n' ∉ k.importPath) (hmocks : (mockText k.mocks).LinesAvoid 'i')
    (hrender : s.isExcluded ({} : TemplateSettings).renderModule = true)
    (hkept : s.isExcluded k.importPath = false) :
    s.scan (k.text {}) =
      [⟨componentImport k.identity k.style k.importPath, k.importPath,
        componentBindings k.identity k.style⟩] := by
  let identity : DefaultName := ⟨⟨k.identity, hname⟩, hne⟩
  have hleft : s.statement? renderDeclaration.line = none := if_pos hrender
  have hcomponent := statement?_componentDeclaration identity k.style hpath hline hkept
  unfold ScanSettings.scan
  rw [importLines_text identity rfl hpath hline hmocks, List.filterMap_append]
  have hfront : List.filterMap s.statement?
      (match k.kind with
        | .markup => [renderDeclaration.line]
        | .plain => []) = [] := by
    cases k.kind with
    | markup => rw [List.filterMap_cons, hleft, List.filterMap_nil]
    | plain => rfl
  rw [hfront, List.filterMap_cons, hcomponent]
  rfl

end Skeleton

end TestScaffold
