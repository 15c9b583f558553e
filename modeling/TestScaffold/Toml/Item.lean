import TestScaffold.Text.Basic

/-!
What a TOML document holds, and how a document grows pair by pair and header by header. A table
remembers how it came about, because that decides which later lines may add to it.
-/

namespace TestScaffold.Toml

/-- How a table came about. -/
inductive TableKind
  /-- A header names it. -/
  | header
  /-- It stands on the way to a table that a header names. -/
  | passed
  /-- It stands on the way to a key with dots. -/
  | dotted
  | inline
  deriving DecidableEq, Repr

inductive Item
  | string (text : Text)
  | integer (value : Int)
  /-- A float, as it is written. -/
  | float (text : Text)
  | boolean (value : Bool)
  /-- A date, a time or both, as it is written. -/
  | moment (text : Text)
  | array (items : List Item)
  | table (kind : TableKind) (entries : List (Text × Item))
  /-- The tables that headers with double brackets name, the last one first. -/
  | tables (rows : List (List (Text × Item)))

/-- A table: its keys in their order, each with what it stands for. -/
abbrev Entries := List (Text × Item)

namespace Entries

def replace (key : Text) (item : Item) (entries : Entries) : Entries :=
  entries.map fun (k, old) => (k, if k = key then item else old)

/-- The entries with `change` made to the table at the end of a path. Tables that are missing on
the way are made; they are of the kind `made`. Where the path comes to an array of tables it goes
on in the last one. Keys with dots do not go through tables that a header or braces define. -/
def changeAt (made : TableKind) (change : Option TableKind → Entries → Option Entries) :
    Option TableKind → List Text → Entries → Option Entries
  | kind, [], entries => change kind entries
  | _, key :: path, entries =>
    match entries.lookup key with
    | none => do
      let inner ← changeAt made change (some made) path []
      some (entries ++ [(key, .table made inner)])
    | some (.table kind inner) =>
      if kind = .inline ∨ made = .dotted ∧ kind = .header then none
      else do
        let inner ← changeAt made change (some kind) path inner
        some (replace key (.table kind inner) entries)
    | some (.tables (row :: rows)) => do
      -- The last row comes first.
      let row ← changeAt made change none path row
      some (replace key (.tables (row :: rows)) entries)
    | some _ => none

/-- The entries with one more key, which has to be new. -/
def insertNew (key : Text) (item : Item) (entries : Entries) : Option Entries :=
  if (entries.lookup key).isSome then none else some (entries ++ [(key, item)])

/-- The entries with one more pair, whose key has the path `path` before its last dot. The table
that it comes into is this one or one that keys with dots made. -/
def insertPair (path : List Text) (key : Text) (item : Item) (entries : Entries) :
    Option Entries :=
  changeAt .dotted
    (fun kind inner =>
      if path ≠ [] ∧ kind ≠ some .dotted then none else insertNew key item inner)
    none path entries

/-- The entries with a table that a header names. A table that only stood on the way to another
one may still get its header. -/
def insertHeader (path : List Text) (key : Text) (entries : Entries) : Option Entries :=
  changeAt .passed
    (fun _ inner =>
      match inner.lookup key with
      | none => some (inner ++ [(key, .table .header [])])
      | some (.table .passed entries) => some (replace key (.table .header entries) inner)
      | some _ => none)
    none path entries

/-- The entries with one more table in the array of tables that a header names. -/
def insertRow (path : List Text) (key : Text) (entries : Entries) : Option Entries :=
  changeAt .passed
    (fun _ inner =>
      match inner.lookup key with
      | none => some (inner ++ [(key, .tables [[]])])
      | some (.tables rows) => some (replace key (.tables ([] :: rows)) inner)
      | some _ => none)
    none path entries

/-- The entries with one more pair in the table that the last header named. -/
def insertUnder (header path : List Text) (key : Text) (item : Item) (entries : Entries) :
    Option Entries :=
  changeAt .passed (fun _ inner => inner.insertPair path key item) none header entries

end Entries

end TestScaffold.Toml
