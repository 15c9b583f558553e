import TestScaffold.Text.Pattern

/-!
How a source exports its component. A reader says, for a position, all the places where what it
reads can end; the forms of exports are readers put together, so that optional words are
optional in every way at once.
-/

namespace TestScaffold

inductive ExportStyle
  | default
  | named
  deriving DecidableEq, Repr

/-- Something found in a source, or taken for want of a find. -/
inductive Classified (α : Type)
  | matched (value : α)
  | fallback (value : α)
  deriving DecidableEq, Repr

namespace Classified

variable {α : Type}

def value : Classified α → α
  | matched a => a
  | fallback a => a

def isFallback : Classified α → Bool
  | matched _ => false
  | fallback _ => true

end Classified

/-- A reader gives all the places where what it reads can end. -/
abbrev Reader := Position → List Position

namespace Reader

/-- The places after white space from here, the place itself first. -/
def blanksAfter (before : Option Char) : Text → List Position
  | [] => [⟨before, []⟩]
  | c :: t => ⟨before, c :: t⟩ :: (if isBlank c then blanksAfter (some c) t else [])

/-- White space, or nothing. -/
def blanks : Reader := fun p =>
  blanksAfter p.before p.rest

/-- White space of at least one character. -/
def gap : Reader := fun p =>
  (blanks p).tail

def literal (word : Text) : Reader := fun p =>
  match Text.after? word p.rest with
  | some rest => [⟨word.getLast?.or p.before, rest⟩]
  | none => []

def boundary : Reader := fun p =>
  if p.isBoundary then [p] else []

def followedBy (a b : Reader) : Reader := fun p =>
  (a p).flatMap b

def orElse (a b : Reader) : Reader := fun p =>
  a p ++ b p

def optional (a : Reader) : Reader := fun p =>
  a p ++ [p]

def sequence (readers : List Reader) : Reader :=
  readers.foldr followedBy fun p => [p]

def accepts (a : Reader) (p : Position) : Bool :=
  !(a p).isEmpty

theorem mem_followedBy {a b : Reader} {p q : Position} :
    q ∈ followedBy a b p ↔ ∃ r ∈ a p, q ∈ b r := by
  simp [followedBy, List.mem_flatMap]

theorem mem_literal {word : Text} {p q : Position} :
    q ∈ literal word p ↔ p.rest = word ++ q.rest ∧ q.before = word.getLast?.or p.before := by
  unfold literal
  cases h : Text.after? word p.rest with
  | none =>
    have hne : ∀ rest, p.rest ≠ word ++ rest := fun rest he => by
      rw [Text.after?_eq_some_iff.mpr he] at h
      simp at h
    simp [hne]
  | some rest =>
    have hr := Text.after?_eq_some_iff.mp h
    cases q
    simp only [List.mem_singleton, Position.mk.injEq, hr, List.append_cancel_left_eq]
    constructor
    · rintro ⟨rfl, rfl⟩
      exact ⟨rfl, rfl⟩
    · rintro ⟨rfl, rfl⟩
      exact ⟨rfl, rfl⟩

end Reader

open Reader

def functionWord : Reader :=
  sequence [literal "function".toList, blanks, optional (literal ['*']), blanks]

def asyncWord : Reader :=
  optional (sequence [literal "async".toList, gap])

def exportWord : Reader :=
  sequence [boundary, literal "export".toList]

/-- A default export of `name`, or of a function or class of that name. -/
def defaultExport (name : Text) : Reader :=
  sequence [exportWord, gap, literal "default".toList, gap, asyncWord,
    optional (orElse functionWord (sequence [literal "class".toList, gap])),
    literal name, boundary]

def declarationWord : Reader :=
  orElse (literal "const".toList) (orElse (literal "let".toList)
    (orElse (literal "var".toList) (literal "class".toList)))

def namedExport (name : Text) : Reader :=
  sequence [exportWord, gap,
    orElse (sequence [declarationWord, gap]) (sequence [asyncWord, functionWord]),
    literal name, boundary]

/-- What stands between the braces of a list of exports that starts here, and the number of
characters that the whole takes. -/
def exportBlock? (p : Position) : Option (Text × Nat) :=
  match Text.after? "export".toList p.rest with
  | none => none
  | some t =>
    match t.dropWhile isBlank with
    | '{' :: body =>
      let inner := body.takeWhile (· ≠ '}')
      -- All characters up to the closing brace count as read.
      if p.isBoundary ∧ '}' ∈ body then
        some (inner, p.rest.length - (body.length - inner.length - 1))
      else none
    | _ => none

/-- The specifiers of all lists of exports, each as its words. -/
def exportSpecifiers (t : Text) : List (List Text) :=
  (t.finds exportBlock?).flatMap fun block =>
    ((Text.fields block ',').map Text.words).filter (· ≠ [])

/-- The words before and after the first `as` that has words on both sides. -/
def cutAtAs? : List Text → Option (List Text × List Text)
  | word :: next :: rest =>
    if next = "as".toList ∧ rest ≠ [] then some ([word], rest)
    else (cutAtAs? (next :: rest)).map fun (before, after) => (word :: before, after)
  | _ => none

def spaced (words : List Text) : Text :=
  Text.join [' '] words

/-- Whether a specifier exports `name` as the default. -/
def isDefaultSpecifier (name : Text) (words : List Text) : Bool :=
  match cutAtAs? words with
  | some (before, after) => spaced before == name && spaced after == "default".toList
  | none => false

def isDefaultExport (t name : Text) : Bool :=
  t.holdsSomewhere (defaultExport name).accepts || (exportSpecifiers t).any (isDefaultSpecifier name)

def isNamedExport (t name : Text) : Bool :=
  t.holdsSomewhere (namedExport name).accepts || (exportSpecifiers t).any (spaced · == name)

/-- How a text exports `name`. A default export counts more than a named one; for a text that
does neither the default style is taken. -/
def classifyExport (t name : Text) : Classified ExportStyle :=
  if isDefaultExport t name then .matched .default
  else if isNamedExport t name then .matched .named
  else .fallback .default

section

variable {t name : Text}

theorem classifyExport_eq_default_iff :
    classifyExport t name = .matched .default ↔ isDefaultExport t name = true := by
  unfold classifyExport
  cases isDefaultExport t name <;> cases isNamedExport t name <;> simp

theorem classifyExport_eq_named_iff : classifyExport t name = .matched .named ↔
    ¬ isDefaultExport t name = true ∧ isNamedExport t name = true := by
  unfold classifyExport
  cases isDefaultExport t name <;> cases isNamedExport t name <;> simp

theorem classifyExport_eq_fallback_iff : classifyExport t name = .fallback .default ↔
    ¬ isDefaultExport t name = true ∧ ¬ isNamedExport t name = true := by
  unfold classifyExport
  cases isDefaultExport t name <;> cases isNamedExport t name <;> simp

end

/-- The style that is taken for a source that cannot be read. -/
def unreadExport : Classified ExportStyle :=
  .fallback .default

end TestScaffold
