import TestScaffold.Toml.Value

/-!
Documents. A document is read line by line: a pair goes into the table that the last header
names, and a header says which table comes next.
-/

namespace TestScaffold.Toml

structure Document where
  entries : Entries := []
  /-- The path of the table that the last header names. -/
  current : List Text := []

/-- The key between the brackets of a header, and what follows the closing ones. -/
def headerKey? (closing : Text) (t : Text) : Option (Key × Text) := do
  let (key, t) ← key? t
  let t ← Text.after? closing t
  some (key, t)

namespace Document

/-- The document after what stands at the start of a text: a header, a pair or nothing. The
second part of the answer is the text after that. -/
def readPart? (d : Document) (t : Text) : Option (Document × Text) :=
  match skipSpaces t with
  | '[' :: '[' :: t => do
    let (key, t) ← headerKey? "]]".toList t
    let entries ← d.entries.insertRow key.path key.name
    some (⟨entries, key.path ++ [key.name]⟩, t)
  | '[' :: t => do
    let (key, t) ← headerKey? "]".toList t
    let entries ← d.entries.insertHeader key.path key.name
    some (⟨entries, key.path ++ [key.name]⟩, t)
  | t =>
    if t = [] ∨ t.head? = some '\n' ∨ t.head? = some '#' then some (d, t)
    else do
      let (key, item, t) ← pair? (value? nestingLimit) t
      let entries ← d.entries.insertUnder d.current key.path key.name item
      some ({ d with entries }, t)

/-- The entries of a document after the lines of a text, of which there are fewer than the first
argument says. -/
def readLines? : Nat → Document → Text → Option Entries
  | 0, _, _ => none
  | n + 1, d, t =>
    if t = [] then some d.entries
    else do
      let (d, t) ← d.readPart? t
      let t ← endLine? t
      readLines? n d t

end Document

/-- What a text holds as a TOML document; none when it is no such document. -/
def parse? (t : Text) : Option Entries :=
  let t := normalize t
  Document.readLines? (t.length + 1) {} t

end TestScaffold.Toml
