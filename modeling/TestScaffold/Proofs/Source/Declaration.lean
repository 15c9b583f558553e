import TestScaffold.Proofs.Text.Blanks
import TestScaffold.Source.Import

/-!
Sources as they are written. A source is a list of items: lines of other code, imports for their
side effects, and import declarations with a clause. Between the words stands any white space.
Each part has a text, and a declaration has the statement that is to be read from it.
-/

namespace TestScaffold

namespace Written

structure Gap where
  text : Text
  blank : ∀ c ∈ text, isBlank c = true

structure Space extends Gap where
  ne_nil : text ≠ []

structure Identifier where
  text : Text
  valid : isIdentifier text = true

structure Alias where
  before : Space
  after : Space
  name : Identifier

/-- What stands between two commas in braces. -/
inductive Specifier
  | value (name : Identifier) (renamed : Option Alias)
  /-- Here `as` is no name: `type as x` renames a value called `type`. -/
  | typeOnly (space : Space) (name : Identifier) (ne_as : name.text ≠ "as".toList)
      (renamed : Option Alias)

structure Entry where
  before : Gap
  specifier : Specifier
  after : Gap

structure Braces where
  entries : List Entry
  /-- The white space after a final comma, or in braces without names. -/
  last : Option Gap

/-- What can follow the default name. -/
inductive Group
  /-- A star, the word `as` and a name for the whole module. -/
  | whole (before : Gap) (after : Space) (name : Identifier)
  | braces (list : Braces)

/-- The name of a default import; the word `type` is none. -/
structure DefaultName extends Identifier where
  ne_type : text ≠ typeKeyword

inductive Names
  | default (name : DefaultName)
  | group (g : Group)
  | both (name : DefaultName) (before after : Gap) (g : Group)

inductive Clause
  | value (names : Names)
  | typeOnly (space : Space) (names : Names)
  /-- The word `type` with a star or a brace right after it. -/
  | typeJoined (g : Group)

/-- A module path between quotes of one kind. -/
structure ModuleText where
  quote : Char
  valid : isQuote quote = true
  path : Text
  ne_nil : path ≠ []
  unquoted : ∀ c ∈ path, isQuote c = false
  oneLine : '\n' ∉ path

/-- What may follow a module path: white space and a semicolon, with white space after it. -/
structure Ending where
  blanks : Gap
  semicolon : Option Gap

structure Declaration where
  afterImport : Space
  clause : Clause
  beforeFrom : Space
  afterFrom : Space
  module : ModuleText
  ending : Ending

def importWord : Text :=
  "import".toList

/-- Whether a line begins with the word `import` and white space, its line feed included. -/
def OpensImport (line : Text) : Prop :=
  ∃ c rest, line ++ ['\n'] = importWord ++ c :: rest ∧ isBlank c = true

inductive Item
  | other (line : Text) (oneLine : '\n' ∉ line) (notImport : ¬ OpensImport line)
  | sideEffect (space : Space) (module : ModuleText) (ending : Ending)
  | declaration (declaration : Declaration)

def Alias.text (a : Alias) : Text :=
  a.before.text ++ ("as".toList ++ (a.after.text ++ a.name.text))

def Specifier.text : Specifier → Text
  | value name renamed => name.text ++ (renamed.map Alias.text).getD []
  | typeOnly space name _ renamed =>
    typeKeyword ++ (space.text ++ (name.text ++ (renamed.map Alias.text).getD []))

def Entry.text (e : Entry) : Text :=
  e.before.text ++ (e.specifier.text ++ e.after.text)

def Braces.parts (b : Braces) : List Text :=
  b.entries.map Entry.text ++ (b.last.map Gap.text).toList

def Braces.text (b : Braces) : Text :=
  '{' :: (Text.join [','] b.parts ++ ['}'])

def Group.text : Group → Text
  | whole before after name => '*' :: (before.text ++ ("as".toList ++ (after.text ++ name.text)))
  | braces list => list.text

def Names.text : Names → Text
  | default name => name.text
  | group g => g.text
  | both name before after g => name.text ++ before.text ++ ',' :: (after.text ++ g.text)

def Clause.text : Clause → Text
  | value names => names.text
  | typeOnly space names => typeKeyword ++ (space.text ++ names.text)
  | typeJoined g => typeKeyword ++ g.text

def ModuleText.quotation (m : ModuleText) : Quotation :=
  ⟨m.quote, m.path, m.quote⟩

/-- What of an ending belongs to the statement: a semicolon with the blanks before it, unless
other white space stands there. -/
def Ending.terminator (e : Ending) : Text :=
  if e.semicolon.isSome && e.blanks.text.all (fun c => c == ' ' || c == '\t') then
    e.blanks.text ++ [';']
  else []

def Ending.text (e : Ending) : Text :=
  e.blanks.text ++ (e.semicolon.map fun after => ';' :: after.text).getD []

def Declaration.head (d : Declaration) : Text :=
  d.afterImport.text ++ d.clause.text ++ (d.beforeFrom.text ++ ("from".toList ++ d.afterFrom.text))

/-- A declaration up to the end of its quotation. -/
def Declaration.body (d : Declaration) : Text :=
  importWord ++ (d.head ++ d.module.quotation.text)

def Item.text : Item → Text
  | other line _ _ => line ++ ['\n']
  | sideEffect space module ending =>
    importWord ++ (space.text ++ (module.quotation.text ++ (ending.text ++ ['\n'])))
  | declaration d => d.body ++ (d.ending.text ++ ['\n'])

/-- The exported name that is taken for use at run time. -/
def Specifier.name? : Specifier → Option Text
  | value name _ => some name.text
  | typeOnly _ _ _ _ => none

def Braces.names (b : Braces) : List Text :=
  b.entries.filterMap fun e => e.specifier.name?

def Group.bindings : Group → Bindings
  | whole _ _ name => { wholeName := some name.text }
  | braces list => { names := list.names }

def Names.bindings : Names → Bindings
  | default name => { defaultName := some name.text }
  | group g => g.bindings
  | both name _ _ g => { g.bindings with defaultName := some name.text }

/-- The bindings of a clause, none when it imports types only. The word `type` with a star right
after it is not seen as such a clause, and binds nothing. -/
def Clause.bindings? : Clause → Option Bindings
  | value names => some names.bindings
  | typeOnly _ _ => none
  | typeJoined (.braces _) => none
  | typeJoined (.whole _ _ _) => some {}

def Declaration.line (d : Declaration) : ImportLine where
  raw := d.body ++ d.ending.terminator
  clause := d.clause.text
  modulePath := d.module.path

/-- The statement of a declaration whose module is not excluded and whose clause imports more
than types. -/
def Declaration.statement? (s : ScanSettings) (d : Declaration) : Option ImportStatement :=
  if s.isExcluded d.module.path then none
  else d.clause.bindings?.map fun bindings =>
    ⟨d.body ++ d.ending.terminator, d.module.path, bindings⟩

def Item.statement? (s : ScanSettings) : Item → Option ImportStatement
  | other _ _ _ | sideEffect _ _ _ => none
  | declaration d => d.statement? s

end Written

end TestScaffold
