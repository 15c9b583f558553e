import TestScaffold.Toml.Scalar

/-!
Keys and values. Arrays and tables between braces hold values again; how deep they may nest is
limited, and the limit is what the reader of values recurses on.
-/

namespace TestScaffold.Toml

/-- One part of a key: a string on one line, or a word. -/
def keyPart? (t : Text) : Option (Text × Text) :=
  match QuotationStyle.open? t with
  | some _ => t.head?.bind fun quote =>
    QuotationStyle.readFrom? ⟨quote, false, quote = '\x22'⟩ .plain (t.drop 1)
  | none =>
    let word := t.takeWhile isBareKeyChar
    if word = [] then none else some (word, t.drop word.length)

/-- The parts of the key that a text starts with, and the text after the key and the spaces
that follow it. The first argument bounds the number of parts. -/
def keyParts? : Nat → Text → Option (List Text × Text)
  | 0, _ => none
  | n + 1, t => do
    let (part, t) ← keyPart? (skipSpaces t)
    match skipSpaces t with
    | '.' :: t => do
      let (parts, t) ← keyParts? n t
      some (part :: parts, t)
    | t => some ([part], t)

/-- A key in two: the parts before its last dot, and the last part. -/
structure Key where
  path : List Text
  name : Text
  deriving DecidableEq, Repr

def keyLimit : Nat := 79

def key? (t : Text) : Option (Key × Text) := do
  let (parts, t) ← keyParts? keyLimit t
  let name ← parts.getLast?
  some (⟨parts.dropLast, name⟩, t)

/-- A reader of values: the value that a text starts with, and the text after it. -/
abbrev ValueReader := Text → Option (Item × Text)

def pair? (read : ValueReader) (t : Text) : Option (Key × Item × Text) := do
  let (key, t) ← key? t
  match t with
  | '=' :: t => do
    let (item, t) ← read (skipSpaces t)
    some (key, item, t)
  | _ => none

/-- The values of an array up to its closing bracket. Line ends and comments may stand between
them, and a comma after the last one. The first argument bounds their number. -/
def arrayItems? (read : ValueReader) : Nat → Text → Option (List Item × Text)
  | 0, _ => none
  | n + 1, t =>
    match skipLines t with
    | ']' :: t => some ([], t)
    | t => do
      let (item, t) ← read t
      match skipLines t with
      | ',' :: t => do
        let (items, t) ← arrayItems? read n t
        some (item :: items, t)
      | ']' :: t => some ([item], t)
      | _ => none

/-- The entries of a table between braces up to the closing one, after those that are there
already. There is no comma after the last pair. The first argument bounds their number. -/
def inlineEntries? (read : ValueReader) : Nat → Entries → Text → Option (Entries × Text)
  | 0, _, _ => none
  | n + 1, entries, t => do
    let (key, item, t) ← pair? read t
    let entries ← entries.insertPair key.path key.name item
    match skipSpaces t with
    | ',' :: t => inlineEntries? read n entries t
    | '}' :: t => some (entries, t)
    | _ => none

def inlineTable? (read : ValueReader) (t : Text) : Option (Item × Text) :=
  match skipSpaces t with
  | '}' :: t => some (.table .inline [], t)
  | t => (inlineEntries? read (t.length + 1) [] t).map fun (entries, t) => (.table .inline entries, t)

def simpleValue? (t : Text) : Option (Item × Text) :=
  match QuotationStyle.open? t with
  | some _ => (quotation? t).map fun (text, t) => (.string text, t)
  | none => scalar? t

/-- The value that a text starts with, and the text after it; arrays and tables may nest as
often as the first argument says. -/
def value? : Nat → ValueReader
  | 0, t => simpleValue? t
  | n + 1, t =>
    match t with
    | '[' :: t => (arrayItems? (value? n) (t.length + 1) t).map fun (items, t) => (.array items, t)
    | '{' :: t => inlineTable? (value? n) t
    | t => simpleValue? t

def nestingLimit : Nat := 79

end TestScaffold.Toml
