/-!
Text is a list of characters. This module holds the operations on text that need no knowledge of
what a character is, and those that only have to know what white space is: the property
White_Space of Unicode 17.0.
-/

namespace TestScaffold

/-- Text is the list of its characters, so that every reader of text recurses on it. -/
abbrev Text := List Char

namespace Text

/-- What follows `start` in the text, when the text begins with it. -/
def after? : Text → Text → Option Text
  | [], t => some t
  | _ :: _, [] => none
  | p :: start, c :: t => if c = p then after? start t else none

theorem after?_eq_some_iff {start t rest : Text} :
    after? start t = some rest ↔ t = start ++ rest := by
  induction start generalizing t with
  | nil => simp [after?]
  | cons p start ih =>
    cases t with
    | nil => simp [after?]
    | cons c t =>
      by_cases h : c = p
      · simp [after?, h, ih]
      · simp [after?, h]

def startsWith (t start : Text) : Bool :=
  (after? start t).isSome

theorem startsWith_iff {t start : Text} : t.startsWith start = true ↔ ∃ rest, t = start ++ rest := by
  simp [startsWith, Option.isSome_iff_exists, after?_eq_some_iff]

def endsWith (t tail : Text) : Bool :=
  startsWith t.reverse tail.reverse

def occursIn (part : Text) : Text → Bool
  | [] => part.isEmpty
  | c :: t => startsWith (c :: t) part || occursIn part t

/-- The text with every `old` replaced by `new`, found from left to right without overlap.
The first argument counts the characters of a found `old` that are still to be passed over. -/
def replaceFrom (old new : Text) : Nat → Text → Text
  | _, [] => []
  | skip + 1, _ :: t => replaceFrom old new skip t
  | 0, c :: t =>
    if startsWith (c :: t) old then new ++ replaceFrom old new (old.length - 1) t
    else c :: replaceFrom old new 0 t

/-- The text with every `old` replaced by `new`; `old` is not empty. -/
def replaceAll (t old new : Text) : Text :=
  replaceFrom old new 0 t

def fields (t : Text) (sep : Char) : List Text :=
  List.splitOn sep t

def join (sep : Text) (parts : List Text) : Text :=
  List.intercalate sep parts

/-- The order of texts by code points, character after character. -/
def order (a b : Text) : Ordering :=
  List.compareLex compare a b

end Text

/-- A set of code points: the points at which membership changes, in rising order. The set
starts at the first one, stops before the second, starts again at the third. -/
abbrev CodeSet := List Nat

/-- A code point belongs to the set when an odd number of changes lie at or before it. -/
def CodeSet.has (set : CodeSet) (code : Nat) : Bool :=
  (set.takeWhile (· ≤ code)).length % 2 == 1

theorem CodeSet.has_nil (code : Nat) : CodeSet.has [] code = false := rfl

/-- The code points with the property White_Space. -/
def blankCodes : CodeSet :=
  [
  9, 14, 32, 33, 133, 134, 160, 161, 5760, 5761, 8192, 8203, 8232, 8234, 8239, 8240, 8287, 8288,
  12288, 12289]

def isBlank (c : Char) : Bool :=
  blankCodes.has c.toNat

namespace Text

def trimStart (t : Text) : Text :=
  t.dropWhile isBlank

def trimEnd (t : Text) : Text :=
  (t.reverse.dropWhile isBlank).reverse

def trim (t : Text) : Text :=
  t.trimStart.trimEnd

/-- The maximal runs of characters that are not white space. -/
def words (t : Text) : List Text :=
  (List.splitOnP isBlank t).filter (· ≠ [])

theorem words_ne_nil {t w : Text} (h : w ∈ t.words) : w ≠ [] := by
  simpa using (List.mem_filter.mp h).2

end Text

end TestScaffold
