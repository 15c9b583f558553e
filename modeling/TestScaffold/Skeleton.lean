import TestScaffold.Mock
import TestScaffold.Source.Export

/-!
The text of a test file: the mocks, a blank line, the imports, a blank line and a suite of
three cases.
-/

namespace TestScaffold

structure Skeleton where
  identity : Text
  style : ExportStyle
  kind : FileKind
  importPath : Text
  mocks : List Mock
  deriving DecidableEq, Repr

def componentImport (identity : Text) (style : ExportStyle) (importPath : Text) : Text :=
  let source := " from \"".toList ++ importPath ++ ['\x22']
  match style with
  | .default => "import ".toList ++ identity ++ source
  | .named => "import \x7b ".toList ++ identity ++ " \x7d".toList ++ source

def TemplateSettings.renderImport (s : TemplateSettings) : Text :=
  "import \x7b ".toList ++ Text.join ", ".toList s.renderBindings ++ " \x7d from \"".toList ++
    s.renderModule ++ ['\x22']

/-- A case that runs one line. -/
def suiteCase (title line : Text) : Text :=
  "    it(\"".toList ++ title ++ "\", () => \x7b\n        ".toList ++ line ++ "\n    \x7d)\n".toList

/-- A case that is still to be written. -/
def emptyCase (title : Text) : Text :=
  "    it(\"".toList ++ title ++ "\", () => \x7b\x7d)\n".toList

/-- The cases of a component with markup; each renders it. -/
def markupCases (identity : Text) : List Text :=
  ["renders without crashing".toList, "renders expected content".toList,
      "handles user interactions".toList].map fun title =>
    suiteCase title ("render(<".toList ++ identity ++ " />)".toList)

/-- The cases of a plain module; only the first one checks something. -/
def plainCases (identity : Text) : List Text :=
  [suiteCase "should be defined".toList ("expect(".toList ++ identity ++ ").toBeDefined()".toList),
    emptyCase "should work correctly".toList, emptyCase "should handle edge cases".toList]

def suite (identity : Text) (cases : List Text) : Text :=
  "describe(\"".toList ++ identity ++ "\", () => \x7b\n".toList ++ Text.join ['\n'] cases ++
    "\x7d)\n".toList

namespace Skeleton

/-- The mocks, each on lines of its own, and a blank line when there are any. -/
def mockText (mocks : List Mock) : Text :=
  mocks.flatMap (fun mock => mock.text ++ ['\n']) ++ (if mocks.isEmpty then [] else ['\n'])

def importText (k : Skeleton) (s : TemplateSettings) : Text :=
  (match k.kind with
    | .markup => s.renderImport ++ ['\n']
    | .plain => []) ++
    componentImport k.identity k.style k.importPath ++ ['\n']

def suiteText (k : Skeleton) : Text :=
  suite k.identity (match k.kind with
    | .markup => markupCases k.identity
    | .plain => plainCases k.identity)

def text (k : Skeleton) (s : TemplateSettings) : Text :=
  mockText k.mocks ++ k.importText s ++ ['\n'] ++ k.suiteText

end Skeleton

end TestScaffold
