import TestScaffold.Source.Import
import TestScaffold.Source.Location
import TestScaffold.Text.Pattern

/-!
Mocks. Every import of a source that is not excluded gets one mock; what stands in it for a
binding depends on the first letter of the binding alone. The module paths of the mocks can be
read back from the text of a test.
-/

namespace TestScaffold

/-- What stands for one binding of a module. -/
inductive MockField
  /-- A component that renders a marker element. -/
  | placeholder (key tag : Text)
  | noOp (key : Text)
  | emptyObject (key : Text)
  deriving DecidableEq, Repr

inductive MockBody
  /-- The fixed stand-in for the framework. -/
  | framework
  | fields (fields : List MockField)
  deriving DecidableEq, Repr

structure Mock where
  modulePath : Text
  body : MockBody
  deriving DecidableEq, Repr

namespace MockField

def key : MockField → Text
  | placeholder key _ => key
  | noOp key => key
  | emptyObject key => key

/-- The field for a binding: names that begin with a capital letter are components. -/
def ofBinding (key name : Text) : MockField :=
  if name.head?.any isUppercase then placeholder key name.toLower else noOp key

def text : MockField → Text
  | placeholder key tag =>
    key ++ ": (props) => jest.requireActual(\"react\").createElement(\"div\", \x7b ".toList ++
      "\"data-testid\": \"".toList ++ tag ++ "\" \x7d, JSON.stringify(props))".toList
  | noOp key => key ++ ": jest.fn()".toList
  | emptyObject key => key ++ ": \x7b\x7d".toList

end MockField

/-- The field that marks a module as one with a default export. -/
def interopField : Text :=
  "__esModule: true".toList

def frameworkFields : List Text :=
  ["default: jest.fn(() => null)".toList,
    "useState: jest.fn((initial) => [initial, jest.fn()])".toList,
    "useEffect: jest.fn()".toList,
    "useLayoutEffect: jest.fn()".toList,
    "useContext: jest.fn()".toList,
    "useReducer: jest.fn((reducer, initial) => [initial, jest.fn()])".toList,
    "useRef: jest.fn((initial = null) => (\x7b current: initial \x7d))".toList,
    "useMemo: jest.fn((factory) => factory())".toList,
    "useCallback: jest.fn((callback) => callback)".toList,
    "createElement: jest.fn()".toList,
    "cloneElement: jest.fn()".toList,
    "Fragment: (\x7b children \x7d) => children".toList]

namespace Mock

/-- The fields that stand for the bindings of an import, in their order. -/
def fieldsOf (b : Bindings) : List MockField :=
  (b.defaultName.map (MockField.ofBinding "default".toList)).toList ++
    b.names.map (fun name => MockField.ofBinding name name) ++
    (b.wholeName.map MockField.emptyObject).toList

/-- The path under which a test finds the module of an import. -/
def modulePathOf (s : PathSettings) (path : Text) : Text :=
  if isRelativeModule path then s.aliasPath path else path

def ofImport (s : Settings) (i : ImportStatement) : Mock :=
  ⟨modulePathOf s.paths i.modulePath,
    if s.template.isFramework i.modulePath then .framework else .fields (fieldsOf i.bindings)⟩

def fields (m : Mock) : List MockField :=
  match m.body with
  | .framework => []
  | .fields fields => fields

/-- The first field of a key. -/
def field? (m : Mock) (key : Text) : Option MockField :=
  m.fields.find? (·.key == key)

/-- The texts of the fields after the marker. -/
def fieldTexts (m : Mock) : List Text :=
  match m.body with
  | .framework => frameworkFields
  | .fields fields => fields.map MockField.text

def fieldLine (field : Text) : Text :=
  "    ".toList ++ field ++ ",\n".toList

/-- The mock as it stands in a test, without a final line feed. -/
def text (m : Mock) : Text :=
  "jest.mock(\"".toList ++ m.modulePath ++ "\", () => (\x7b\n".toList ++
    (interopField :: m.fieldTexts).flatMap fieldLine ++ "\x7d))".toList

/-- The module path of the mock that starts here, and the number of characters read for it. -/
def header? (p : Position) : Option (Text × Nat) :=
  match p.isLineStart, Text.after? "jest.mock(".toList p.rest with
  | true, some t =>
    match Quotation.read? (t.dropWhile isBlank) with
    | some (quotation, rest) => some (quotation.content, p.rest.length - rest.length)
    | none => none
  | _, _ => none

end Mock

/-- The module paths of the mocks in the text of a test. -/
def mockedModules (t : Text) : List Text :=
  t.finds Mock.header?

end TestScaffold
