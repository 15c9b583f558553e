import TestScaffold.Text.Letter

/-!
The names that an import introduces, read from the clause between `import` and `from`.
-/

namespace TestScaffold

def isIdentifierStart (c : Char) : Bool :=
  isLetter c || c == '_' || c == '$'

/-- Whether a character may stand in an identifier after the first one. -/
def isIdentifierChar (c : Char) : Bool :=
  isLetterOrNumber c || c == '_' || c == '$'

def isIdentifier : Text → Bool
  | [] => false
  | c :: t => isIdentifierStart c && t.all isIdentifierChar

/-- The names that one import introduces. -/
structure Bindings where
  defaultName : Option Text := none
  /-- The exported names taken one by one, whatever they are called in the importing file. -/
  names : List Text := []
  wholeName : Option Text := none
  deriving DecidableEq, Repr

/-- The word that marks what has no value at run time. -/
def typeKeyword : Text :=
  "type".toList

/-- The exported name of one specifier between braces. A specifier that begins with `type` is
none, unless `type` is the name itself. -/
def specifierName? (specifier : Text) : Option Text :=
  match specifier.words with
  | [] => none
  | name :: others =>
    if name = typeKeyword ∧ others ≠ [] ∧ others.head? ≠ some "as".toList then none
    else if isIdentifier name then some name
    else none

/-- The clause cut at its first braces: what stands between them and what stands around them.
Braces that are not closed reach to the end. -/
def cutBraces? (clause : Text) : Option (Text × Text) :=
  match clause.dropWhile (· ≠ '{') with
  | [] => none
  | _ :: body =>
    some (body.takeWhile (· ≠ '}'),
      clause.takeWhile (· ≠ '{') ++ (body.dropWhile (· ≠ '}')).drop 1)

namespace Bindings

/-- The bindings after one more part between the commas outside braces. The last default name
and the last name of the whole module count. -/
def addPart (b : Bindings) (part : Text) : Bindings :=
  match part with
  | '*' :: star =>
    let name := ((Text.after? "as".toList (Text.trim star)).map Text.trim).getD []
    if isIdentifier name then { b with wholeName := some name } else b
  | _ => if isIdentifier part then { b with defaultName := some part } else b

def isTypeClause (clause : Text) : Bool :=
  match Text.after? typeKeyword clause with
  | some (c :: _) => isBlank c || c == '{'
  | _ => false

/-- The bindings of a clause; none when it imports types only. -/
def ofClause? (clause : Text) : Option Bindings :=
  let clause := clause.trim
  if isTypeClause clause then none
  else
    let (inner, outer) := (cutBraces? clause).getD ([], clause)
    let names := (Text.fields inner ',').filterMap specifierName?
    let parts := ((Text.fields outer ',').map Text.trim).filter (· ≠ [])
    some (parts.foldl addPart { names })

end Bindings

end TestScaffold
