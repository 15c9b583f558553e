import TestScaffold.Text.Basic

/-!
The characters of TOML, and what may stand between its parts: blanks, comments and line ends.
-/

namespace TestScaffold.Toml

def isSpace (c : Char) : Bool :=
  c == ' ' || c == '\t'

/-- Whether a character may stand in comments and strings as it is. Control characters other
than the tab may not. -/
def isPlain (c : Char) : Bool :=
  c == '\t' || (' ' ≤ c && c ≠ '\x7f')

def isBareKeyChar (c : Char) : Bool :=
  c.isAlphanum || c == '_' || c == '-'

def skipSpaces (t : Text) : Text :=
  t.dropWhile isSpace

/-- The text without the spaces, line ends and comments at its start; `inComment` says whether
it starts inside a comment. -/
def skipLinesFrom : Bool → Text → Text
  | _, [] => []
  | false, c :: t =>
    if isSpace c ∨ c = '\n' then skipLinesFrom false t
    else if c = '#' then skipLinesFrom true t
    else c :: t
  | true, c :: t =>
    if c = '\n' then skipLinesFrom false t
    else if isPlain c then skipLinesFrom true t
    else c :: t

/-- The text without the spaces, line ends and comments at its start. -/
def skipLines (t : Text) : Text :=
  skipLinesFrom false t

/-- What follows the rest of a line that holds at most a comment. -/
def endLine? (t : Text) : Option Text :=
  let t := skipSpaces t
  let t := if t.head? = some '#' then t.dropWhile isPlain else t
  match t with
  | [] => some []
  | c :: t => if c = '\n' then some t else none

/-- The text with each line end written as one character, and without the mark that can stand
before a document. -/
def normalize (t : Text) : Text :=
  Text.replaceAll (if t.head? = some '\ufeff' then t.drop 1 else t) ['\r', '\n'] ['\n']

end TestScaffold.Toml
