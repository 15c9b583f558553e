import TestScaffold.Toml.Character

/-!
TOML strings: between single or double quotes, on one line or on several. One reader serves all
four forms; its state says what the characters before mean for the next one.
-/

namespace TestScaffold.Toml

structure QuotationStyle where
  quote : Char
  /-- Three quotes stand at each end, and the content may have several lines. -/
  multiline : Bool
  /-- A backslash starts an escape. -/
  escapes : Bool
  deriving DecidableEq, Repr

/-- What the characters before mean for the next character of a string. -/
inductive QuotationState
  | plain
  | escaped
  /-- So many digits of an escape are still to come after those that make up `value`. -/
  | digits (left value : Nat)
  /-- The line ends with a backslash, up to the spaces after it. -/
  | trailing
  /-- White space up to the next other character is left out. -/
  | folding
  /-- So many quotes in a row. -/
  | quotes (n : Nat)
  deriving DecidableEq, Repr

def hexValue? (c : Char) : Option Nat :=
  if c.isDigit then some (c.toNat - '0'.toNat)
  else if 'a' ≤ c ∧ c ≤ 'f' then some (c.toNat - 'a'.toNat + 10)
  else if 'A' ≤ c ∧ c ≤ 'F' then some (c.toNat - 'A'.toNat + 10)
  else none

/-- The character of a code point; none for surrogates and beyond the last one. -/
def charOfCode? (n : Nat) : Option Char :=
  if n.isValidChar then some (Char.ofNat n) else none

def escapeValue? : Char → Option Char
  | 'b' => some '\x08'
  | 't' => some '\t'
  | 'n' => some '\n'
  | 'f' => some '\x0c'
  | 'r' => some '\r'
  | '\x22' => some '\x22'
  | '\\' => some '\\'
  | _ => none

namespace QuotationStyle

/-- The style in which a text starts a string, and what follows the opening quotes. A line end
right after three quotes is no content. -/
def open? : Text → Option (QuotationStyle × Text)
  | a :: t =>
    if a = '\x22' ∨ a = '\x27' then
      match Text.after? [a, a] t with
      | some t => some (⟨a, true, a = '\x22'⟩, if t.head? = some '\n' then t.drop 1 else t)
      | none => some (⟨a, false, a = '\x22'⟩, t)
    else none
  | [] => none

/-- What a character says in the midst of a string: an end, a change of state, or itself. The
answer is the content that it adds and the next state, or nothing where it cannot stand. -/
def plainStep? (s : QuotationStyle) (c : Char) : Option (Text × QuotationState) :=
  if s.escapes ∧ c = '\\' then some ([], .escaped)
  else if s.multiline ∧ c = s.quote then some ([], .quotes 1)
  else if isPlain c ∨ s.multiline ∧ c = '\n' then some ([c], .plain)
  else none

/-- What a character says in a state, short of ending the string. -/
def step? (s : QuotationStyle) (c : Char) : QuotationState → Option (Text × QuotationState)
  | .plain => s.plainStep? c
  | .escaped =>
    if c = 'u' then some ([], .digits 4 0)
    else if c = 'U' then some ([], .digits 8 0)
    else if s.multiline ∧ isSpace c then some ([], .trailing)
    else if s.multiline ∧ c = '\n' then some ([], .folding)
    else (escapeValue? c).map fun c => ([c], .plain)
  | .digits left value => do
    let value := value * 16 + (← hexValue? c)
    if left ≤ 1 then do
      let c ← charOfCode? value
      some ([c], .plain)
    else some ([], .digits (left - 1) value)
  | .trailing =>
    if isSpace c then some ([], .trailing)
    else if c = '\n' then some ([], .folding)
    else none
  | .folding => if isSpace c ∨ c = '\n' then some ([], .folding) else s.plainStep? c
  | .quotes n =>
    if c = s.quote then some ([], .quotes (n + 1))
    -- The quotes did not end the string, so they are content.
    else (s.plainStep? c).map fun (content, state) => (List.replicate n s.quote ++ content, state)

/-- The content that ends before the next character `c`, if the string ends there. Three quotes
end a string of several lines; one or two more before them are content. -/
def ending? (s : QuotationStyle) (c : Option Char) : QuotationState → Option Text
  | .quotes n =>
    if 3 ≤ n ∧ (n = 5 ∨ c ≠ some s.quote) then some (List.replicate (n - 3) s.quote) else none
  | _ => none

/-- The content of a string from a state on, and the text after the closing quotes. -/
def readFrom? (s : QuotationStyle) : QuotationState → Text → Option (Text × Text)
  | state, [] => (s.ending? none state).map fun content => (content, [])
  | state, c :: t =>
    match s.ending? (some c) state with
    | some content => some (content, c :: t)
    | none =>
      if ¬ s.multiline ∧ state = .plain ∧ c = s.quote then some ([], t)
      else do
        let (content, state) ← s.step? c state
        let (more, rest) ← readFrom? s state t
        some (content ++ more, rest)

end QuotationStyle

def quotation? (t : Text) : Option (Text × Text) := do
  let (style, t) ← QuotationStyle.open? t
  style.readFrom? .plain t

def quote (t : Text) : Text :=
  let escape (c : Char) : Text :=
    if c = '\x22' ∨ c = '\\' then ['\\', c]
    else if isPlain c then [c]
    else
      let digits := Nat.toDigits 16 c.toNat
      "\\u".toList ++ List.replicate (4 - digits.length) '0' ++ digits
  '\x22' :: (t.flatMap escape ++ ['\x22'])

end TestScaffold.Toml
