import Rollout.Json
import Rollout.Text.Digits
import Rollout.Text.Utf8

/-!
# Reading Json

A recursive reader over what remains of the text. Where it stops, it says why and how much of the
text was left, and `Json.parse` turns the latter into a line and a column, counted in bytes.

A fault is either found by looking at the next byte, which is then the one reported, or by having
read a byte, which is then the last one passed; `Stop.ahead` says how many bytes to count on.
Nesting is limited, see `Json.maxDepth`.
-/

namespace Rollout.Json

/-- Why a text is no Json. -/
inductive Fault
  | endInList | endInObject | endInText | endInValue
  | expectedColon | expectedCommaOrBracket | expectedCommaOrBrace
  | expectedWord | expectedValue
  | invalidEscape | invalidNumber | numberOutOfRange
  | controlCharacter | keyNotText | loneSurrogate | trailingComma | trailingCharacters
  | unfinishedSurrogate | tooDeep
  deriving DecidableEq, Repr

/-- The wording of a fault. -/
def Fault.message : Fault → String
  | endInList => "EOF while parsing a list"
  | endInObject => "EOF while parsing an object"
  | endInText => "EOF while parsing a string"
  | endInValue => "EOF while parsing a value"
  | expectedColon => "expected `:`"
  | expectedCommaOrBracket => "expected `,` or `]`"
  | expectedCommaOrBrace => "expected `,` or `\x7d`"
  | expectedWord => "expected ident"
  | expectedValue => "expected value"
  | invalidEscape => "invalid escape"
  | invalidNumber => "invalid number"
  | numberOutOfRange => "number out of range"
  | controlCharacter => "control character (\\u0000-\\u001F) found while parsing a string"
  | keyNotText => "key must be a string"
  | loneSurrogate => "lone leading surrogate in hex escape"
  | trailingComma => "trailing comma"
  | trailingCharacters => "trailing characters"
  | unfinishedSurrogate => "unexpected end of hex escape"
  | tooDeep => "recursion limit exceeded"

/-- Where and why reading stopped: the fault, the text not yet read, and how many bytes of it the
reported position lies ahead. -/
structure Stop where
  fault : Fault
  rest : List Char
  ahead : Nat
  deriving Repr

/-- The outcome of a reader: a value and the text behind it. -/
abbrev Read (α : Type) : Type := Except Stop (α × List Char)

/-- Stops at what has been read. -/
def stop {α : Type} (fault : Fault) (rest : List Char) : Except Stop α := .error ⟨fault, rest, 0⟩

/-- Stops at the next byte. -/
def stopAhead {α : Type} (fault : Fault) (rest : List Char) : Except Stop α :=
  .error ⟨fault, rest, 1⟩

/-- The blanks between tokens. -/
def isSpace (c : Char) : Bool := c = ' ' || c = '\n' || c = '\t' || c = '\r'

def skipSpace (cs : List Char) : List Char := cs.dropWhile isSpace

/-! ### Words and numbers -/

/-- Reads the rest of a word. -/
def word : List Char → List Char → Except Stop (List Char)
  | [], rest => .ok rest
  | _ :: _, [] => stop .endInValue []
  | w :: ws, c :: rest => if c = w then word ws rest else stopAhead .expectedWord (c :: rest)

def digitValue (c : Char) : Nat := c.toNat - 48

/-- Continues a number by digits as long as 64 bits hold it; the digits left over come with it. -/
def heldDigits (n : Nat) : List Char → Nat × List Char
  | [] => (n, [])
  | c :: digits =>
    let next := n * 10 + digitValue c
    if Bits.holds 64 next then heldDigits next digits else (n, c :: digits)

/-- Whether a decimal is a number: its digits and its power of ten are rounded to floating-point
numbers, and their product has to be finite. -/
def isInRange (digits : Nat) (exponent : Int) : Bool :=
  exponent < 0 || Bits.isFiniteProduct digits exponent.toNat

/-- A decimal, with the text behind it. -/
def real? (negative : Bool) (digits : Nat) (exponent : Int) (rest : List Char) : Read Json :=
  if isInRange digits exponent then .ok (.real negative digits exponent, rest)
  else stop .numberOutOfRange rest

/-- Reads the digits of an exponent, of which at least one has been read. An exponent that 32 bits
do not hold makes the number zero or too large. -/
def exponentDigits (negative : Bool) (digits : Nat) (exponent : Int) (down : Bool) :
    Nat → List Char → Read Json
  | e, [] => real? negative digits (if down then exponent - e else exponent + e) []
  | e, c :: rest =>
    if c.isDigit then
      let e := e * 10 + digitValue c
      if Bits.holdsSigned 32 e then exponentDigits negative digits exponent down e rest
      else if digits ≠ 0 ∧ ¬ down then stop .numberOutOfRange rest
      else .ok (.real negative 0 0, rest.dropWhile Char.isDigit)
    else real? negative digits (if down then exponent - e else exponent + e) (c :: rest)

/-- Reads an exponent behind its letter. -/
def exponentPart (negative : Bool) (digits : Nat) (exponent : Int) (cs : List Char) : Read Json :=
  let (down, cs) := match cs with
    | '+' :: rest => (false, rest)
    | '-' :: rest => (true, rest)
    | _ => (false, cs)
  match cs with
  | [] => stop .endInValue []
  | c :: rest =>
    if c.isDigit then exponentDigits negative digits exponent down (digitValue c) rest
    else stopAhead .invalidNumber (c :: rest)

/-- Reads an exponent if one follows. -/
def exponent? (negative : Bool) (digits : Nat) (exponent : Int) (cs : List Char) : Read Json :=
  match cs with
  | 'e' :: rest | 'E' :: rest => exponentPart negative digits exponent rest
  | _ => real? negative digits exponent cs

/-- Reads the decimals behind a point. Those that 64 bits do not hold together with the digits
before them do not count. -/
def fractionPart (negative : Bool) (n : Nat) (exponent : Int) (cs : List Char) : Read Json :=
  let decimals := cs.takeWhile Char.isDigit
  let rest := cs.dropWhile Char.isDigit
  if decimals.isEmpty then
    if rest.isEmpty then stopAhead .endInValue [] else stopAhead .invalidNumber rest
  else
    let (n, left) := heldDigits n decimals
    exponent? negative n (exponent - (decimals.length - left.length : Nat)) rest

/-- A whole number, if 64 bits hold it and have held all of its digits; a zero with a sign is a
decimal. -/
def whole (negative : Bool) (n left : Nat) (rest : List Char) : Read Json :=
  let signed : Int := if negative then -n else n
  if left == 0 && (!negative || (0 < n && Bits.holdsSigned 64 signed)) then
    .ok (.int signed, rest)
  else real? negative n left rest

/-- Reads a number behind its sign. Digits of its whole part that 64 bits do not hold count as
zeros. -/
def number (negative : Bool) : List Char → Read Json
  | [] => stop .endInValue []
  | c :: rest =>
    if ¬ c.isDigit then stopAhead .invalidNumber (c :: rest)
    else
      let digits := if c = '0' then [c] else c :: rest.takeWhile Char.isDigit
      let after := if c = '0' then rest else rest.dropWhile Char.isDigit
      let (n, left) := heldDigits 0 digits
      match after with
      | '.' :: decimals => fractionPart negative n left.length decimals
      | 'e' :: e | 'E' :: e => exponentPart negative n left.length e
      | d :: more =>
        if d.isDigit then stopAhead .invalidNumber (d :: more)
        else whole negative n left.length (d :: more)
      | [] => whole negative n left.length []

/-! ### Texts -/

/-- Reads four hexadecimal digits. -/
def hex4 (cs : List Char) : Read Nat :=
  if Text.Utf8.size (cs.take 4) < 4 then stop .endInText []
  else
    match cs with
    | a :: b :: c :: d :: rest =>
      match Text.hexValue? a, Text.hexValue? b, Text.hexValue? c, Text.hexValue? d with
      | some a, some b, some c, some d => .ok (((a * 16 + b) * 16 + c) * 16 + d, rest)
      | _, _, _, _ => .error ⟨.invalidEscape, cs, 4⟩
    | _ => .error ⟨.invalidEscape, cs, 4⟩

/-- Reads the second half of a character that is written as two numbers. -/
def lowSurrogate (high : Nat) : List Char → Read Char
  | [] => stop .endInText []
  | '\\' :: [] => stop .endInText []
  | '\\' :: 'u' :: rest =>
    match hex4 rest with
    | .error e => .error e
    | .ok (low, rest) =>
      if 0xDC00 ≤ low ∧ low ≤ 0xDFFF then
        .ok (Char.ofNat ((high - 0xD800) * 1024 + (low - 0xDC00) + 0x10000), rest)
      else stop .loneSurrogate rest
  | '\\' :: c :: rest => stopAhead .unfinishedSurrogate (c :: rest)
  | c :: rest => stopAhead .unfinishedSurrogate (c :: rest)

/-- Reads a character that is written as a number. -/
def unicodeEscape (cs : List Char) : Read Char :=
  match hex4 cs with
  | .error e => .error e
  | .ok (n, rest) =>
    if 0xDC00 ≤ n ∧ n ≤ 0xDFFF then stop .loneSurrogate rest
    else if 0xD800 ≤ n ∧ n ≤ 0xDBFF then lowSurrogate n rest
    else .ok (Char.ofNat n, rest)

/-- Reads an escaped character behind its backslash. -/
def escaped : List Char → Read Char
  | [] => stop .endInText []
  | c :: rest =>
    if c = '\x22' ∨ c = '\\' ∨ c = '/' then .ok (c, rest)
    else if c = 'b' then .ok ('\x08', rest)
    else if c = 'f' then .ok ('\x0c', rest)
    else if c = 'n' then .ok ('\n', rest)
    else if c = 'r' then .ok ('\r', rest)
    else if c = 't' then .ok ('\t', rest)
    else if c = 'u' then unicodeEscape rest
    else stopAhead .invalidEscape (c :: rest)

/-- Reads a text behind its opening quote. Each step reads a character, so `steps` need not exceed
the length of what is left. -/
def textTail : (steps : Nat) → (done : List Char) → List Char → Read String
  | 0, _, _ | _, _, [] => stop .endInText []
  | steps + 1, done, c :: rest =>
    if c = '\x22' then .ok (String.ofList done.reverse, rest)
    else if c = '\\' then
      match escaped rest with
      | .error e => .error e
      | .ok (d, rest) => textTail steps (d :: done) rest
    else if c.toNat < 32 then stop .controlCharacter rest
    else textTail steps (c :: done) rest

/-- Reads a text behind its opening quote. -/
def textBody (cs : List Char) : Read String := textTail (cs.length + 1) [] cs

/-! ### Values -/

/-- How deep lists and objects may stand in one another. -/
def maxDepth : Nat := 127

/-- What a list or an object reads next: its end, or an item. -/
def nextItem (first : Bool) (close : Char) (atEnd missing : Fault) (cs : List Char) :
    Except Stop (Bool × List Char) :=
  match skipSpace cs with
  | [] => stopAhead atEnd []
  | c :: rest =>
    if c = close then .ok (false, rest)
    else if first then .ok (true, c :: rest)
    else if c = ',' then
      match skipSpace rest with
      | [] => stopAhead .endInValue []
      | d :: rest =>
        if d = close then stopAhead .trailingComma (d :: rest) else .ok (true, d :: rest)
    else stopAhead missing (c :: rest)

/-- Reads the name of a field and the colon behind it. -/
def fieldName : List Char → Read String
  | '\x22' :: rest =>
    match textBody rest with
    | .error e => .error e
    | .ok (name, rest) =>
      match skipSpace rest with
      | ':' :: rest => .ok (name, rest)
      | [] => stopAhead .endInObject []
      | rest => stopAhead .expectedColon rest
  | rest => stopAhead .keyNotText rest

mutual
/-- Reads a value, with `depth` more levels of nesting allowed. Each call reads a character or is
followed by one that does, so twice the length of the text bounds `fuel`. -/
def value : (fuel depth : Nat) → List Char → Read Json
  | 0, _, rest => stopAhead .endInValue rest
  | fuel + 1, depth, cs =>
    match skipSpace cs with
    | [] => stopAhead .endInValue []
    | c :: rest =>
      if c = 'n' then (word ['u', 'l', 'l'] rest).map fun rest => (.null, rest)
      else if c = 't' then (word ['r', 'u', 'e'] rest).map fun rest => (.bool true, rest)
      else if c = 'f' then (word ['a', 'l', 's', 'e'] rest).map fun rest => (.bool false, rest)
      else if c = '-' then number true rest
      else if c.isDigit then number false (c :: rest)
      else if c = '\x22' then (textBody rest).map fun (s, rest) => (.text s, rest)
      else if c = '[' then
        match depth with
        | 0 => stopAhead .tooDeep (c :: rest)
        | depth + 1 => (items fuel depth true rest).map fun (js, rest) => (.list js, rest)
      else if c = '{' then
        match depth with
        | 0 => stopAhead .tooDeep (c :: rest)
        | depth + 1 => (fields fuel depth true rest).map fun (fs, rest) => (.object fs, rest)
      else stopAhead .expectedValue (c :: rest)

/-- Reads the items of a list up to its end. -/
def items : (fuel depth : Nat) → Bool → List Char → Read (List Json)
  | 0, _, _, rest => stopAhead .endInList rest
  | fuel + 1, depth, first, cs =>
    match nextItem first ']' .endInList .expectedCommaOrBracket cs with
    | .error e => .error e
    | .ok (false, rest) => .ok ([], rest)
    | .ok (true, rest) =>
      match value fuel depth rest with
      | .error e => .error e
      | .ok (j, rest) => (items fuel depth false rest).map fun (js, rest) => (j :: js, rest)

/-- Reads the fields of an object up to its end. -/
def fields : (fuel depth : Nat) → Bool → List Char → Read (List (String × Json))
  | 0, _, _, rest => stopAhead .endInObject rest
  | fuel + 1, depth, first, cs =>
    match nextItem first '}' .endInObject .expectedCommaOrBrace cs with
    | .error e => .error e
    | .ok (false, rest) => .ok ([], rest)
    | .ok (true, rest) =>
      match fieldName rest with
      | .error e => .error e
      | .ok (name, rest) =>
        match value fuel depth rest with
        | .error e => .error e
        | .ok (j, rest) =>
          (fields fuel depth false rest).map fun (fs, rest) => ((name, j) :: fs, rest)
end

/-- Reads a whole text. -/
def document (cs : List Char) : Except Stop Json :=
  match value (2 * cs.length + 2) maxDepth cs with
  | .error e => .error e
  | .ok (j, rest) =>
    match skipSpace rest with
    | [] => .ok j
    | rest => stopAhead .trailingCharacters rest

/-! ### Positions -/

/-- Line and column of a byte of the text, counted in bytes from the last line feed. -/
def position (cs : List Char) (index : Nat) : Nat × Nat :=
  let before := (Text.Utf8.encode (String.ofList cs)).take index
  (1 + before.count 10, (before.reverse.takeWhile (· ≠ 10)).length)

/-- A fault with the place where it was found. -/
structure ParseError where
  fault : Fault
  line : Nat
  column : Nat
  deriving DecidableEq, Repr

/-- The wording of a fault with its place. -/
def ParseError.message (e : ParseError) : String :=
  e.fault.message ++ " at line " ++ toString e.line ++ " column " ++ toString e.column

/-- The place at which reading a text stopped. -/
def ParseError.ofStop (cs : List Char) (s : Stop) : ParseError :=
  let index := min (Text.Utf8.size cs) (Text.Utf8.size cs - Text.Utf8.size s.rest + s.ahead)
  let (line, column) := position cs index
  ⟨s.fault, line, column⟩

/-- The value that a text spells. -/
def parse (s : String) : Except ParseError Json :=
  (document s.toList).mapError (ParseError.ofStop s.toList)

end Rollout.Json
