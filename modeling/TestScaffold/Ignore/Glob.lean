import TestScaffold.Text.Basic

/-!
Glob patterns, matched against whole relative paths. Both are taken as bytes of UTF-8, so that
`?` stands for one byte. A single star does not reach over a slash, a double star between
slashes does, and braces hold alternatives, which are multiplied out when a pattern is read.
-/

namespace TestScaffold

inductive GlobPart
  /-- One byte that is not a slash. -/
  | anyByte
  /-- Any bytes that are no slashes. -/
  | star
  /-- At the start: any directories, or none. -/
  | deepStart
  /-- Between two slashes: any directories, or none. -/
  | deepMiddle
  /-- At the end: everything below. -/
  | deepEnd
  | byte (value : UInt8)
  /-- One byte in one of the ranges, or in none of them. -/
  | oneOf (negated : Bool) (ranges : List (UInt8 × UInt8))
  deriving DecidableEq, Repr

/-- A pattern: a path matches when it matches one of the alternatives. -/
abbrev Glob := List (List GlobPart)

def utf8Bytes (t : Text) : List UInt8 :=
  t.flatMap String.utf8EncodeChar

namespace GlobPart

def slash : UInt8 := 47

/-- What can be left after a star: the tails of the first name. -/
def afterStar : List UInt8 → List (List UInt8)
  | [] => [[]]
  | b :: bs => (b :: bs) :: (if b = slash then [] else afterStar bs)

def tails : List UInt8 → List (List UInt8)
  | [] => [[]]
  | b :: bs => (b :: bs) :: tails bs

def afterSlashes : List UInt8 → List (List UInt8)
  | [] => []
  | b :: bs => if b = slash then bs :: afterSlashes bs else afterSlashes bs

/-- What can be left of a path after a part of a pattern has matched at its start. -/
def rests : GlobPart → List UInt8 → List (List UInt8)
  | anyByte, b :: bs => if b = slash then [] else [bs]
  | star, bs => afterStar bs
  | deepStart, bs => bs :: afterSlashes bs
  | deepMiddle, b :: bs => if b = slash then bs :: afterSlashes bs else []
  | deepEnd, b :: bs => if b = slash then tails bs else []
  | byte v, b :: bs => if b = v then [bs] else []
  | oneOf negated ranges, b :: bs =>
    if ranges.any (fun (low, high) => low ≤ b && b ≤ high) != negated then [bs] else []
  | _, [] => []

def matchAll : List GlobPart → List UInt8 → Bool
  | [], bs => bs.isEmpty
  | part :: parts, bs => (part.rests bs).any (matchAll parts)

end GlobPart

/-- Whether a path matches a pattern. The pattern of a double star alone matches everything. -/
def Glob.matches (g : Glob) (path : Text) : Bool :=
  g == [[.deepStart]] || g.any fun parts => GlobPart.matchAll parts (utf8Bytes path)

/-- Braces under way: the alternatives of the pattern before them, and those inside that are
complete. -/
structure OpenBraces where
  before : Glob
  done : Glob
  deriving DecidableEq, Repr

/-- A pattern under way: the alternatives so far, the braces around them, innermost first, and
the character read last. -/
structure GlobReading where
  current : Glob := [[]]
  outer : List OpenBraces := []
  last : Option Char := none
  /-- Whether a bracket without its partner has been met; from then on brackets are text. -/
  plainBrackets : Bool := false
  deriving DecidableEq, Repr

namespace GlobReading

def add (r : GlobReading) (parts : List GlobPart) : GlobReading :=
  { r with current := r.current.map (· ++ parts) }

def addChar (r : GlobReading) (c : Char) : GlobReading :=
  r.add ((String.utf8EncodeChar c).map .byte)

/-- The reading with the last part of every alternative replaced, unless it is a double star
already. -/
def replaceLast (r : GlobReading) (part : GlobPart) : GlobReading :=
  { r with current := r.current.map fun parts =>
      match parts.getLast? with
      | some .deepStart => parts
      | some .deepEnd => parts
      | _ => parts.dropLast ++ [part] }

/-- The bytes of a range of characters, as ranges of bytes. -/
def byteRanges (low high : Char) : List (UInt8 × UInt8) :=
  let first := String.utf8EncodeChar low
  let last := String.utf8EncodeChar high
  if low = high then first.map fun b => (b, b)
  else
    first.dropLast.map (fun b => (b, b)) ++
      [(first.getLast?.getD 0, last.head?.getD 0)] ++ last.tail.map fun b => (b, b)

/-- The ranges of characters between brackets, in reverse order, and the pattern after them.
Inside, `low` waits for the other end of a range when `inRange` holds. -/
def readRanges : Text → List (Char × Char) → Bool → Bool → Option (List (Char × Char) × Text)
  | [], _, _, _ => none
  | c :: t, ranges, first, inRange =>
    -- A bracket or a dash at the start stands for itself.
    if c = ']' ∧ !first then some (if inRange then ('-', '-') :: ranges else ranges, t)
    else if c = '-' ∧ !first ∧ !inRange then readRanges t ranges false true
    else
      match inRange, ranges with
      | true, (low, _) :: others => readRanges t ((low, c) :: others) false false
      | _, _ => readRanges t ((c, c) :: ranges) false false

/-- What brackets stand for, and the pattern after them; none when they are not closed, and no
part when a range runs backwards. -/
def readBrackets (t : Text) : Option (Option GlobPart × Text) :=
  let (negated, body) := match t with
    | '!' :: body => (true, body)
    | '^' :: body => (true, body)
    | body => (false, body)
  match readRanges body [] true false with
  | none => none
  | some (ranges, rest) =>
    if ranges.any fun (low, high) => high < low then some (none, rest)
    else some (some (.oneOf negated (ranges.flatMap fun (low, high) => byteRanges low high)), rest)

/-- The reading after two stars, the last character before them, and the pattern after them. A
slash after the stars may belong to them. -/
def readDoubleStar (r : GlobReading) (t : Text) : GlobReading × Text :=
  -- Inside braces an alternative may end here though the pattern goes on.
  let closes := !r.outer.isEmpty && (t.head? == some ',' || t.head? == some '\x7d')
  if r.current == [[]] then
    match t with
    | [] => (r.add [.deepStart], [])
    | '/' :: rest => ({ r.add [.deepStart] with last := some '/' }, rest)
    | _ => ({ r.add [.star, .star] with last := some '*' }, t)
  -- Stars that touch a name are two single stars.
  else if r.last != some '/' then ({ r.add [.star, .star] with last := some '*' }, t)
  -- From here on the slash before the stars is the last part; the double star takes it over.
  else if t.isEmpty || closes then ({ r.replaceLast .deepEnd with last := some '*' }, t)
  else
    match t with
    | '/' :: rest => ({ r.replaceLast .deepMiddle with last := some '/' }, rest)
    | _ => ({ r.add [.star, .star] with last := some '*' }, t)

/-- The reading after braces are closed. Empty alternatives do not count. -/
def closeBraces (r : GlobReading) (braces : OpenBraces) (outer : List OpenBraces) : GlobReading :=
  let inside := (braces.done ++ r.current).filter (!·.isEmpty)
  let current :=
    if inside.isEmpty then braces.before
    else braces.before.flatMap fun parts => inside.map (parts ++ ·)
  { r with current, outer }

/-- The reading after the next step through the pattern, and the pattern after it; none when
the pattern is not well formed. -/
def step (r : GlobReading) (c : Char) (t : Text) : Option (GlobReading × Text) :=
  let next (r : GlobReading) : GlobReading := { r with last := some c }
  match c with
  | '?' => some (next (r.add [.anyByte]), t)
  | '*' =>
    match t with
    | '*' :: rest => some (r.readDoubleStar rest)
    | _ => some (next (r.add [.star]), t)
  | '[' =>
    if r.plainBrackets then some (next (r.addChar c), t)
    else
      match readBrackets t with
      | none => some (next { r.addChar c with plainBrackets := true }, t)
      | some (none, _) => none
      | some (some part, rest) => some ({ r.add [part] with last := some ']' }, rest)
  | '\x7b' => some (next { r with current := [[]], outer := ⟨r.current, []⟩ :: r.outer }, t)
  | '\x7d' =>
    match r.outer with
    | [] => none
    | braces :: outer => some (next (r.closeBraces braces outer), t)
  | ',' =>
    match r.outer with
    | [] => some (next (r.addChar c), t)
    | braces :: outer =>
      -- The alternative before the comma is complete, and the next one starts empty.
      some (next { r with
        current := [[]]
        outer := { braces with done := braces.done ++ r.current } :: outer }, t)
  | '\\' =>
    match t with
    | [] => none
    | d :: rest => some ({ r.addChar d with last := some d }, rest)
  | _ => some (next (r.addChar c), t)

/-- The pattern that is read in at most `n` steps. -/
def finish : Nat → GlobReading → Text → Option Glob
  | _, r, [] => if r.outer.isEmpty then some r.current else none
  | 0, _, _ :: _ => none
  | n + 1, r, c :: t =>
    match r.step c t with
    | none => none
    | some (r, rest) => finish n r rest

end GlobReading

def Glob.read? (t : Text) : Option Glob :=
  GlobReading.finish t.length {} t

end TestScaffold
