import TestScaffold.Text.Word

/-!
Looking for a pattern in a text. A position is a place in a text: the character before it, if
any, and the text after it. A recogniser is tried at one position after the other; what it has
taken is passed over, so that the finds do not overlap. A pattern that is written down may have a
place for a name, which is put in literally.
-/

namespace TestScaffold

structure Position where
  before : Option Char
  rest : Text
  deriving DecidableEq, Repr

namespace Position

def isLineStart (p : Position) : Bool :=
  p.before == none || p.before == some '\n'

def isBoundary (p : Position) : Bool :=
  isWordBoundary p.before p.rest.head?

end Position

namespace Text

/-- Whether `test` holds somewhere in the text `t` that follows `before`. -/
def holdsFrom (test : Position → Bool) (before : Option Char) : Text → Bool
  | [] => test ⟨before, []⟩
  | c :: t => test ⟨before, c :: t⟩ || holdsFrom test (some c) t

/-- Whether `test` holds at some position of the text, its two ends included. -/
def holdsSomewhere (test : Position → Bool) (t : Text) : Bool :=
  holdsFrom test none t

/-- What `find` finds in the text after `before` once `skip` characters are passed over. A find
comes with the number of characters it takes. -/
def findsFrom {α : Type} (find : Position → Option (α × Nat)) :
    Nat → Option Char → Text → List α
  | _, _, [] => []
  | skip + 1, _, c :: t => findsFrom find skip (some c) t
  | 0, before, c :: t =>
    match find ⟨before, c :: t⟩ with
    | some (a, taken) => a :: findsFrom find (taken - 1) (some c) t
    | none => findsFrom find 0 (some c) t

def finds {α : Type} (find : Position → Option (α × Nat)) (t : Text) : List α :=
  findsFrom find 0 none t

end Text

/-- A quotation as imports and mocks write module paths: either quote at either end. -/
structure Quotation where
  opening : Char
  content : Text
  closing : Char
  deriving DecidableEq, Repr

def isQuote (c : Char) : Bool :=
  c == '\x27' || c == '\x22'

namespace Quotation

def text (q : Quotation) : Text :=
  q.opening :: (q.content ++ [q.closing])

/-- The quotation that the text begins with, and the text after it. Its content is not empty. -/
def read? : Text → Option (Quotation × Text)
  | [] => none
  | opening :: t =>
    match t.takeWhile (!isQuote ·), t.dropWhile (!isQuote ·) with
    | content, closing :: rest =>
      if isQuote opening && !content.isEmpty then some (⟨opening, content, closing⟩, rest) else none
    | _, [] => none

end Quotation

/-- The characters that have a meaning of their own in a pattern. -/
def metaCharacters : Text :=
  "\\.+*?()|[]\x7b\x7d^$#&-~".toList

/-- The pattern that stands for the text itself. -/
def literalPattern (t : Text) : Text :=
  t.flatMap fun c => if c ∈ metaCharacters then ['\\', c] else [c]

def namePlace : Text :=
  "\x7bname\x7d".toList

/-- The pattern with the name in every place for one. -/
def fillName (pattern name : Text) : Text :=
  Text.replaceAll pattern namePlace (literalPattern name)

end TestScaffold
