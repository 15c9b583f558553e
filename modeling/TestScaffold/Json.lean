import TestScaffold.Text.Basic

/-!
JSON values and their text, one value a line and indented by two spaces a level.
-/

namespace TestScaffold

inductive Json
  | text (value : Text)
  | number (value : Nat)
  | truth (value : Bool)
  | list (items : List Json)
  | record (fields : List (Text × Json))

namespace Json

/-- How a character is written in a string: quotes, backslashes and control characters as
escapes, everything else as it is. -/
def escape (c : Char) : Text :=
  if c = '\x22' ∨ c = '\\' then ['\\', c]
  else if c = '\x08' then ['\\', 'b']
  else if c = '\x0c' then ['\\', 'f']
  else if c = '\n' then ['\\', 'n']
  else if c = '\r' then ['\\', 'r']
  else if c = '\t' then ['\\', 't']
  else if c < ' ' then
    let digits := Nat.toDigits 16 c.toNat
    "\\u".toList ++ List.replicate (4 - digits.length) '0' ++ digits
  else [c]

def quote (t : Text) : Text :=
  '\x22' :: (t.flatMap escape ++ ['\x22'])

def newline (level : Nat) : Text :=
  '\n' :: List.replicate (2 * level) ' '

/-- Parts between brackets, each on a line of the next level. -/
def enclose (opening closing : Char) (level : Nat) (parts : List Text) : Text :=
  if parts = [] then [opening, closing]
  else
    opening :: (Text.join [','] (parts.map (newline (level + 1) ++ ·)) ++ newline level ++ [closing])

mutual

/-- The text of a value that starts on a line of the level. -/
def pretty (level : Nat) : Json → Text
  | text value => quote value
  | number value => Nat.toDigits 10 value
  | truth value => if value then "true".toList else "false".toList
  | list items => enclose '[' ']' level (prettyItems (level + 1) items)
  | record fields => enclose '\x7b' '\x7d' level (prettyFields (level + 1) fields)

def prettyItems (level : Nat) : List Json → List Text
  | [] => []
  | item :: items => pretty level item :: prettyItems level items

def prettyFields (level : Nat) : List (Text × Json) → List Text
  | [] => []
  | (name, value) :: fields =>
    (quote name ++ ": ".toList ++ pretty level value) :: prettyFields level fields

end

end Json

end TestScaffold
