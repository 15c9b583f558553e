import TestScaffold.Settings
import TestScaffold.Source.Bindings
import TestScaffold.Text.Pattern

/-!
The imports of a source. An import starts a line, may run over several lines, and ends after
the first quotation that follows `import`; between the two stand its clause and `from`.
-/

namespace TestScaffold

structure ImportStatement where
  raw : Text
  modulePath : Text
  bindings : Bindings
  deriving DecidableEq, Repr

/-- Whether a module path is relative to the importing file. -/
def isRelativeModule (path : Text) : Bool :=
  path.startsWith "./".toList || path.startsWith "../".toList

/-- What an import says before its bindings are looked at. -/
structure ImportLine where
  raw : Text
  clause : Text
  modulePath : Text
  deriving DecidableEq, Repr

/-- The clause in the text between `import` and the quotation. White space surrounds the clause
and follows `from`; the clause holds no semicolon and is not empty, but may be blank. -/
def clauseOf? (head : Text) : Option Text :=
  -- Read from the end, the last `from` is found first.
  match head.reverse with
  | [] => none
  | last :: back =>
    match isBlank last, Text.after? "from".toList.reverse (back.dropWhile isBlank) with
    | true, some middle =>
      -- One blank at each end and one character between them.
      if 3 ≤ middle.length ∧ middle.head?.any isBlank ∧ middle.getLast?.any isBlank ∧ ';' ∉ middle
      then some (Text.trim middle.reverse)
      else none
    | _, _ => none

/-- A semicolon that ends a statement, with the blanks before it. -/
def terminatorOf (t : Text) : Text :=
  let blanks := t.takeWhile fun c => c == ' ' || c == '\t'
  if (t.drop blanks.length).head? = some ';' then blanks ++ [';'] else []

/-- The import that the text begins with. -/
def ImportLine.read? (t : Text) : Option ImportLine :=
  match Text.after? "import".toList t with
  | none => none
  | some t =>
    let head := t.takeWhile (!isQuote ·)
    match clauseOf? head, Quotation.read? (t.dropWhile (!isQuote ·)) with
    | some clause, some (quotation, rest) =>
      let raw := "import".toList ++ head ++ quotation.text ++ terminatorOf rest
      some ⟨raw, clause, quotation.content⟩
    | _, _ => none

def importLines (t : Text) : List ImportLine :=
  t.finds fun p =>
    if p.isLineStart then (ImportLine.read? p.rest).map fun line => (line, line.raw.length)
    else none

/-- The statement of an import that gets a mock: its module is not excluded, and it imports more
than types. -/
def ScanSettings.statement? (s : ScanSettings) (line : ImportLine) : Option ImportStatement :=
  if s.isExcluded line.modulePath then none
  else (Bindings.ofClause? line.clause).map fun bindings => ⟨line.raw, line.modulePath, bindings⟩

/-- The imports of a text that get mocks, in their order. -/
def ScanSettings.scan (s : ScanSettings) (t : Text) : List ImportStatement :=
  (importLines t).filterMap s.statement?

end TestScaffold
