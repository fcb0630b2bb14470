import Rollout.Bits
import Rollout.Text.Digits
import Rollout.Toml

/-!
# Scalars of Toml

Texts in their four kinds of quotes, whole numbers to four bases, numbers with a fraction, truth
values, dates and times. A scalar without quotes reaches up to the next character that cannot
belong to one, and is then judged as a whole.
-/

namespace Rollout.Toml

/-! ### Characters -/

/-- The blanks within a line. -/
def isSpace (c : Char) : Bool := c = ' ' || c = '\t'

/-- A control character that may stand nowhere. -/
def isControl (c : Char) : Bool := (c.toNat < 32 && c ≠ '\t') || c.toNat = 127

/-- A character of a key without quotes. -/
def isKeyChar (c : Char) : Bool := c.isAlphanum || c = '_' || c = '-'

def skipSpace (cs : List Char) : List Char := cs.dropWhile isSpace

/-- The text behind a line end, if one stands here. -/
def lineEnd? : List Char → Option (List Char)
  | '\n' :: rest => some rest
  | '\r' :: '\n' :: rest => some rest
  | _ => none

/-! ### Texts -/

/-- The character of an escape without a number. -/
def simpleEscape? (c : Char) : Option Char :=
  match c with
  | 'b' => some '\x08'
  | 't' => some '\t'
  | 'n' => some '\n'
  | 'f' => some '\x0c'
  | 'r' => some '\r'
  | 'e' => some '\x1b'
  | '\x22' => some '\x22'
  | '\\' => some '\\'
  | _ => none

/-- Reads an escape behind its backslash. -/
def escape? : List Char → Option (Char × List Char)
  | [] => none
  | c :: rest =>
    match simpleEscape? c with
    | some ch => some (ch, rest)
    | none => do
      let width ←
        if c = 'x' then some 2 else if c = 'u' then some 4 else if c = 'U' then some 8 else none
      let digits := rest.take width
      let n ← Text.digitsValue? 16 digits
      if digits.length = width ∧ n.isValidChar then some (Char.ofNat n, rest.drop width) else none

/-- Passes blanks and line ends. -/
def skipBreaks : List Char → List Char
  | '\n' :: rest => skipBreaks rest
  | '\r' :: '\n' :: rest => skipBreaks rest
  | c :: rest => if isSpace c then skipBreaks rest else c :: rest
  | [] => []

/-- Passes an escaped line end behind its backslash, and the blanks and line ends that follow. -/
def skipEscapedBreak? (cs : List Char) : Option (List Char) :=
  (lineEnd? (skipSpace cs)).map skipBreaks

/-- Reads a text on one line behind its opening quote. -/
def lineText? (quote : Char) : (steps : Nat) → (done : List Char) → List Char →
    Option (String × List Char)
  | 0, _, _ | _, _, [] => none
  | steps + 1, done, c :: rest =>
    if c = quote then some (String.ofList done.reverse, rest)
    else if isControl c then none
    else if c = '\\' ∧ quote = '\x22' then do
      let (ch, rest) ← escape? rest
      lineText? quote steps (ch :: done) rest
    else lineText? quote steps (c :: done) rest

/-- Reads a text on several lines behind its opening quotes. Three quotes end it, and up to two
more directly before them belong to the text, as its line ends do in the way they are written. -/
def linesText? (quote : Char) : (steps : Nat) → (done : List Char) → List Char →
    Option (String × List Char)
  | 0, _, _ | _, _, [] => none
  | steps + 1, done, c :: rest =>
    if c = quote then
      let quotes := (c :: rest).takeWhile (· = quote)
      if quotes.length < 3 then
        linesText? quote steps (quotes ++ done) ((c :: rest).drop quotes.length)
      else if quotes.length ≤ 5 then
        some (String.ofList ((quotes.drop 3) ++ done).reverse, (c :: rest).drop quotes.length)
      else none
    else if isControl c ∧ (lineEnd? (c :: rest)).isNone then none
    else if c = '\\' ∧ quote = '\x22' then
      match skipEscapedBreak? rest with
      | some rest => linesText? quote steps done rest
      | none => do
        let (ch, rest) ← escape? rest
        linesText? quote steps (ch :: done) rest
    else linesText? quote steps (c :: done) rest

/-- Reads a text, the first character being its quote. A line end directly behind three quotes does
not belong to the text. -/
def text? (quote : Char) (cs : List Char) : Option (String × List Char) :=
  if cs.take 3 = [quote, quote, quote] then
    let body := cs.drop 3
    let body := (lineEnd? body).getD body
    linesText? quote (body.length + 1) [] body
  else lineText? quote cs.length [] (cs.drop 1)

/-! ### Numbers

The form of a number decides whether it is one: its signs, points, leading zeros and underscores.
What its digits come to is a second question, and a number for which it has no answer is
`Toml.unreadable`. -/

/-- The sign in front of a number and the number. -/
def signed : List Char → Option Bool × List Char
  | '+' :: rest => (some false, rest)
  | '-' :: rest => (some true, rest)
  | rest => (none, rest)

/-- Whether each underscore stands between two digits of the class `p`; `opened` says whether one
may stand first. -/
def isSeparated (p : Char → Bool) : (opened : Bool) → List Char → Bool
  | _, [] => true
  | opened, '_' :: rest => opened && rest.head?.any p && isSeparated p false rest
  | _, c :: rest => isSeparated p (p c) rest

/-- The characters that are no underscores. -/
def dropUnderscores (cs : List Char) : List Char := cs.filter (· ≠ '_')

/-- A whole number as a value, where 128 bits hold it. -/
def wholeValue (written : String) (negative : Bool) (magnitude : Option Nat) : Toml :=
  let n : Option Int := magnitude.map fun n => if negative then -n else n
  match n.filter (Bits.holdsEither 128) with
  | some n => .int n
  | none => .unreadable written

/-- The base that stands in front of the digits of a number, and the digits. -/
def based? : List Char → Option (Nat × List Char)
  | '0' :: 'x' :: rest => some (16, rest)
  | '0' :: 'o' :: rest => some (8, rest)
  | '0' :: 'b' :: rest => some (2, rest)
  | _ => none

/-- A run of digits and underscores, without the latter, and the text behind it. It holds a digit,
and begins with a zero only if that is allowed or the only digit. -/
def digitRun? (zeroFirst : Bool) (cs : List Char) : Option (List Char × List Char) :=
  let run := cs.takeWhile fun c => c.isDigit || c = '_'
  let digits := dropUnderscores run
  if digits.isEmpty then none
  else if 1 < digits.length ∧ run.head? = some '0' ∧ ¬ zeroFirst then none
  else some (digits, cs.drop run.length)

/-- The fraction behind a whole part, which may be missing. -/
def fraction? : List Char → Option (List Char × List Char)
  | '.' :: rest => digitRun? true rest
  | rest => some ([], rest)

/-- The exponent behind a mantissa, which may be missing. -/
def exponent? : List Char → Option (Int × List Char)
  | [] => some (0, [])
  | c :: rest =>
    if c = 'e' ∨ c = 'E' then do
      let (sign, rest) := signed rest
      let (digits, rest) ← digitRun? true rest
      let e := (Text.digitsValue? 10 digits).getD 0
      some (if sign = some true then -(e : Int) else e, rest)
    else some (0, c :: rest)

/-- The digits and the power of ten of a number with a fraction, an exponent or both. -/
def decimal? (cs : List Char) : Option (List Char × Int) := do
  let (whole, cs) ← digitRun? false cs
  let (fraction, cs) ← fraction? cs
  let (exponent, cs) ← exponent? cs
  if cs.isEmpty then some (whole ++ fraction, exponent - fraction.length) else none

/-- Reads digits behind the mark of their base, of which there may be none. -/
def basedNumber? (written : String) (base : Nat) (cs : List Char) : Option Toml :=
  if cs.all (fun c => c = '_' || Text.isDigitOf base c) &&
      isSeparated (Text.isDigitOf base) false cs then
    some (wholeValue written false (Text.digitsValue? base (dropUnderscores cs)))
  else none

/-- Reads a number with a point, an exponent or both behind its sign. -/
def realNumber? (written : String) (signed : Bool) (cs : List Char) : Option Toml := do
  let (digits, exponent) ← decimal? cs
  if isSeparated Char.isDigit signed cs then
    let n := (Text.digitsValue? 10 digits).getD 0
    some (if Bits.isFiniteDecimal n exponent then .real written else .unreadable written)
  else none

/-- Reads a whole number behind its sign. It has no leading zero. What follows an underscore may be
digits of a greater base, which leave the number without a value. -/
def wholeNumber? (written : String) (sign : Option Bool) (cs : List Char) : Option Toml :=
  let rest := cs.dropWhile Char.isDigit
  if cs.isEmpty || (1 < cs.length && cs.head? == some '0') then none
  else if (rest.isEmpty || rest.head? == some '_') &&
      isSeparated (Text.isDigitOf 16) sign.isSome cs then
    some (wholeValue written (sign == some true) (Text.digitsValue? 10 (dropUnderscores cs)))
  else none

/-- Reads a number. Only decimal digits may have a sign, and behind those that the number begins
with a point or the letter of an exponent makes it one with a fraction. -/
def number? (word : List Char) : Option Toml :=
  let written := String.ofList word
  let (sign, cs) := signed word
  if cs = ['i', 'n', 'f'] ∨ cs = ['n', 'a', 'n'] then some (.real written)
  else
    match sign, based? cs with
    | none, some (base, digits) => basedNumber? written base digits
    | _, _ =>
      if (cs.dropWhile Char.isDigit).any (fun c => c = '.' || c = 'e' || c = 'E') then
        realNumber? written sign.isSome cs
      else wholeNumber? written sign cs

/-! ### Dates and times -/

/-- A number of exactly `width` digits and the text behind it. -/
def fixed? (width : Nat) (cs : List Char) : Option (Nat × List Char) :=
  let digits := cs.take width
  if digits.length = width ∧ digits.all Char.isDigit then
    (Text.digitsValue? 10 digits).map (·, cs.drop width)
  else none

/-- The text behind an expected character. -/
def after? (c : Char) : List Char → Option (List Char)
  | d :: rest => if d = c then some rest else none
  | [] => none

def isLeapYear (y : Nat) : Bool := y % 4 = 0 && (y % 100 ≠ 0 || y % 400 = 0)

def daysInMonth (y m : Nat) : Nat :=
  if m = 2 then (if isLeapYear y then 29 else 28) else if [4, 6, 9, 11].contains m then 30 else 31

/-- Passes a date. -/
def date? (cs : List Char) : Option (List Char) := do
  let (y, cs) ← fixed? 4 cs
  let (m, cs) ← fixed? 2 (← after? '-' cs)
  let (d, cs) ← fixed? 2 (← after? '-' cs)
  if 1 ≤ m ∧ m ≤ 12 ∧ 1 ≤ d ∧ d ≤ daysInMonth y m then some cs else none

/-- Passes the seconds of a time, which may be missing, and their fraction. -/
def seconds? (cs : List Char) : Option (List Char) :=
  match cs with
  | ':' :: rest => do
    let (s, rest) ← fixed? 2 rest
    if 60 < s then none
    else
      match rest with
      | '.' :: rest =>
        if rest.head?.any Char.isDigit then some (rest.dropWhile Char.isDigit) else none
      | rest => some rest
  | rest => some rest

/-- Passes a time. -/
def time? (cs : List Char) : Option (List Char) := do
  let (h, cs) ← fixed? 2 cs
  let (m, cs) ← fixed? 2 (← after? ':' cs)
  if h ≤ 23 ∧ m ≤ 59 then seconds? cs else none

/-- Passes the distance from universal time, which may be missing. -/
def offset? (cs : List Char) : Option (List Char) :=
  match cs with
  | 'Z' :: rest | 'z' :: rest => some rest
  | '+' :: rest | '-' :: rest => do
    let (h, rest) ← fixed? 2 rest
    let (m, rest) ← fixed? 2 (← after? ':' rest)
    if h ≤ 23 ∧ m ≤ 59 then some rest else none
  | rest => some rest

/-- Whether the characters are a date, a time, or both with or without an offset. -/
def isDate (cs : List Char) : Bool :=
  match date? cs with
  | some [] => true
  | some (sep :: rest) =>
    (sep = 'T' || sep = 't' || sep = ' ') && ((time? rest).bind offset?) == some []
  | none => time? cs == some []

/-! ### Scalars without quotes -/

/-- A character that a scalar without quotes may hold. Quotes end none. -/
def isScalarChar (c : Char) : Bool :=
  !(isSpace c || c = '\n' || c = '\r' || c = ',' || c = '[' || c = ']' || c = '{' || c = '}' ||
    c = '#' || c = '=')

/-- The characters of a scalar without quotes. A time may follow a date behind a blank. -/
def scalarChars (cs : List Char) : List Char × List Char :=
  let first := cs.takeWhile isScalarChar
  let rest := cs.dropWhile isScalarChar
  match date? first, rest with
  | some [], ' ' :: c :: more =>
    if c.isDigit then
      (first ++ ' ' :: (c :: more).takeWhile isScalarChar, (c :: more).dropWhile isScalarChar)
    else (first, rest)
  | _, _ => (first, rest)

/-- Reads a scalar without quotes. -/
def scalar? (cs : List Char) : Option (Toml × List Char) :=
  let (word, rest) := scalarChars cs
  let s := String.ofList word
  if s = "true" then some (.bool true, rest)
  else if s = "false" then some (.bool false, rest)
  else if isDate word then some (.date s, rest)
  else (number? word).map fun v => (v, rest)

end Rollout.Toml
