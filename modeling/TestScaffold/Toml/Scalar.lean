import TestScaffold.Toml.Item
import TestScaffold.Toml.Quotation

/-!
The values that are written without quotes and brackets: booleans, integers, floats, dates and
times. Each is a word of letters, digits and a few signs, and the word alone decides what it is.
-/

namespace TestScaffold.Toml

/-- Whether a word that is a value may hold a character. -/
def isWordChar (c : Char) : Bool :=
  isBareKeyChar c || c == '+' || c == '.' || c == ':'

def digitValue (c : Char) : Nat :=
  (hexValue? c).getD 0

def isDigitIn (base : Nat) (c : Char) : Bool :=
  (hexValue? c).any (· < base)

/-- The digits in groups joined by underscores, if the text is that. -/
def groupedDigits? (base : Nat) (t : Text) : Option Text :=
  let groups := Text.fields t '_'
  if groups.all fun g => !g.isEmpty && g.all (isDigitIn base) then some groups.flatten else none

def numberOfDigits (base : Nat) (digits : Text) : Nat :=
  digits.foldl (fun n c => n * base + digitValue c) 0

/-- The number that the text is, as whole numbers are written in the decimal base: without
leading zeros. -/
def decimal? (t : Text) : Option Nat :=
  if t.head? = some '0' ∧ t ≠ ['0'] then none else (groupedDigits? 10 t).map (numberOfDigits 10)

def cutSign : Text → Bool × Text
  | '-' :: t => (true, t)
  | '+' :: t => (false, t)
  | t => (false, t)

/-- The integer that a word is. Those in other bases have no sign; all have 64 bits. -/
def integer? (word : Text) : Option Int := do
  let value : Int ← match word with
    | '0' :: 'x' :: t => (groupedDigits? 16 t).map fun ds => (numberOfDigits 16 ds : Int)
    | '0' :: 'o' :: t => (groupedDigits? 8 t).map fun ds => (numberOfDigits 8 ds : Int)
    | '0' :: 'b' :: t => (groupedDigits? 2 t).map fun ds => (numberOfDigits 2 ds : Int)
    | word =>
      let (negative, t) := cutSign word
      (decimal? t).map fun n => if negative then -(n : Int) else n
  let limit : Int := Nat.pow 2 63
  if -limit ≤ value ∧ value < limit then some value else none

/-- Whether the number `digits · 10 ^ exponent` is too large for a float of double precision.
Half a unit above the largest one is too large already. -/
def isTooLarge (digits : Text) (exponent : Int) : Bool :=
  let n := numberOfDigits 10 digits
  let limit := Nat.pow 2 1024 - Nat.pow 2 970
  if n = 0 then false
  else if exponent < 0 then limit ≤ n / Nat.pow 10 (min exponent.natAbs digits.length)
  else if 400 < exponent then true
  else limit ≤ n * Nat.pow 10 exponent.natAbs

def isFloat (word : Text) : Bool :=
  let (negative, t) := cutSign word
  if t = "inf".toList ∨ t = "nan".toList then true
  else
    let isMark (c : Char) : Bool := c == 'e' || c == 'E'
    let mantissa := t.takeWhile (!isMark ·)
    let whole := mantissa.takeWhile (· ≠ '.')
    let fraction? : Option Text := match mantissa.dropWhile (· ≠ '.') with
      | [] => some []
      | _ :: digits => groupedDigits? 10 digits
    let exponent? : Option Int := match t.dropWhile (!isMark ·) with
      | [] => some 0
      | _ :: digits =>
        let (negative, digits) := cutSign digits
        (groupedDigits? 10 digits).map fun ds =>
          let n : Int := numberOfDigits 10 ds
          if negative then -n else n
    match decimal? whole, fraction?, exponent? with
    | some _, some fraction, some exponent =>
      let digits := (whole.filter (· ≠ '_')) ++ fraction
      decide (whole.length < t.length) && (negative || !isTooLarge digits (exponent - fraction.length))
    | _, _, _ => false

def fixedDigits? (n : Nat) (t : Text) : Option Nat :=
  if t.length = n ∧ t.all Char.isDigit then some (numberOfDigits 10 t) else none

/-- The number of days in a month; a month that there is not has none. -/
def daysIn (year month : Nat) : Nat :=
  if month = 2 then if year % 4 = 0 ∧ (year % 100 ≠ 0 ∨ year % 400 = 0) then 29 else 28
  else if month = 4 ∨ month = 6 ∨ month = 9 ∨ month = 11 then 30
  else if 1 ≤ month ∧ month ≤ 12 then 31
  else 0

def isDate (t : Text) : Bool :=
  match (Text.fields t '-') with
  | [year, month, day] =>
    match fixedDigits? 4 year, fixedDigits? 2 month, fixedDigits? 2 day with
    | some year, some month, some day => 1 ≤ day && day ≤ daysIn year month
    | _, _, _ => false
  | _ => false

def isClock (t : Text) : Bool :=
  match Text.fields t ':' with
  | [hour, minute] => (fixedDigits? 2 hour).any (· ≤ 23) && (fixedDigits? 2 minute).any (· ≤ 59)
  | _ => false

/-- Whether a text is a time of day, to the second or finer. -/
def isTime (t : Text) : Bool :=
  let second := t.drop 6
  isClock (t.take 5) && (t.drop 5).head? == some ':' &&
    (fixedDigits? 2 (second.take 2)).any (· ≤ 60) &&
    match second.drop 2 with
    | [] => true
    | '.' :: digits => !digits.isEmpty && digits.all Char.isDigit
    | _ => false

/-- Whether a text is a time of day with its distance from universal time. -/
def isZonedTime (t : Text) : Bool :=
  let time := t.takeWhile fun c => c.isDigit || c == ':' || c == '.'
  isTime time &&
    match t.drop time.length with
    | [c] => c == 'Z' || c == 'z'
    | sign :: offset => (sign == '+' || sign == '-') && isClock offset
    | [] => false

def isMoment (t : Text) : Bool :=
  isDate t || isTime t ||
    isDate (t.take 10) &&
      match t.drop 10 with
      | c :: time => (c == 'T' || c == 't' || c == ' ') && (isTime time || isZonedTime time)
      | [] => false

def Item.ofWord? (word : Text) : Option Item :=
  if word = "true".toList then some (.boolean true)
  else if word = "false".toList then some (.boolean false)
  else
    match integer? word with
    | some n => some (.integer n)
    | none =>
      if isFloat word then some (.float word)
      else if isMoment word then some (.moment word)
      else none

/-- The value that the first word of a text is, and the text after it. A date and a time may
stand with a space between them. -/
def scalar? (t : Text) : Option (Item × Text) :=
  let word := t.takeWhile isWordChar
  let rest := t.drop word.length
  let time := (rest.drop 1).takeWhile isWordChar
  let both := word ++ ' ' :: time
  if rest.head? = some ' ' ∧ isMoment both then some (.moment both, rest.drop (time.length + 1))
  else (Item.ofWord? word).map fun item => (item, rest)

end TestScaffold.Toml
