import TestScaffold.Ignore.Glob

/-!
The rules of an ignore file. Each line is a pattern; a later line counts more than an earlier
one. The paths that it judges are relative to the directory of the file.
-/

namespace TestScaffold

/-- What a rule says of the paths that match it. -/
inductive Verdict
  | ignore
  | keep
  deriving DecidableEq, Repr

structure IgnoreRule where
  glob : Glob
  verdict : Verdict
  /-- Whether only directories are meant. -/
  directoriesOnly : Bool
  deriving DecidableEq, Repr

namespace IgnoreRule

/-- The pattern of a line, to be matched against whole relative paths. A pattern without a slash
matches in every directory; one that ends in a double star does not match the directory itself. -/
def patternText (anchored : Bool) (line : Text) : Text :=
  let pattern :=
    if anchored || '/' ∈ line || line = "**".toList then line else "**/".toList ++ line
  if pattern.endsWith "/**".toList then pattern ++ "/*".toList else pattern

/-- The rule of a line without the marks at its start. -/
def ofPattern? (verdict : Verdict) (anchored : Bool) (line : Text) : Option IgnoreRule :=
  let directoriesOnly := line.getLast? == some '/'
  let line := if directoriesOnly then line.dropLast else line
  -- A backslash before the final slash only escaped it.
  let line := if directoriesOnly && line.getLast? == some '\\' then line.dropLast else line
  (Glob.read? (patternText anchored line)).map fun glob => ⟨glob, verdict, directoriesOnly⟩

/-- The rule of a line; none for blank lines, comments and patterns that are not well formed. -/
def ofLine? (line : Text) : Option IgnoreRule :=
  if line.head? = some '#' then none
  else
    -- A space after a backslash belongs to the pattern.
    match if line.endsWith "\\ ".toList then line else line.trimEnd with
    | [] => none
    | '\\' :: '!' :: t => ofPattern? .ignore false ('!' :: t)
    | '\\' :: '#' :: t => ofPattern? .ignore false ('#' :: t)
    | '!' :: '/' :: t => ofPattern? .keep true t
    | '!' :: t => ofPattern? .keep false t
    | '/' :: t => ofPattern? .ignore true t
    | t => ofPattern? .ignore false t

/-- The rules of an ignore file, the last one first. -/
def ofLines (lines : List Text) : List IgnoreRule :=
  let lines := match lines with
    | first :: others => first.dropWhile (· = '\ufeff') :: others
    | [] => []
  (lines.filterMap ofLine?).reverse

/-- What the rules, the last one first, say of a relative path. -/
def judge (rules : List IgnoreRule) (path : Text) (isDirectory : Bool) : Option Verdict :=
  (rules.find? fun rule =>
    (isDirectory || !rule.directoriesOnly) && rule.glob.matches path).map (·.verdict)

end IgnoreRule

end TestScaffold
