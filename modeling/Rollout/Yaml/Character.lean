import Rollout.Text.Utf8

/-!
# The characters of Yaml

Character classes of the format, and the cursor with which a text is read. A class is asked of the
next character if there is one; the end of the text counts as blank and as a break where the rules
treat it so.
-/

namespace Rollout.Yaml

/-- A character that a text may hold at all. -/
def isAllowed (c : Char) : Bool :=
  let n := c.toNat
  n == 9 || n == 10 || n == 13 || (0x20 ≤ n && n ≤ 0x7E) || n == 0x85 ||
    (0xA0 ≤ n && n ≤ 0xD7FF) || (0xE000 ≤ n && n ≤ 0xFFFD) || 0x10000 ≤ n

/-- A character that ends a line. -/
def isBreak (c : Char) : Bool :=
  let n := c.toNat
  n == 10 || n == 13 || n == 0x85 || n == 0x2028 || n == 0x2029

/-- A character that separates words within a line. -/
def isBlank (c : Char) : Bool := c = ' ' || c = '\t'

/-- A blank, a break or the end of the text. -/
def isBlankOrEnd : Option Char → Bool
  | some c => isBlank c || isBreak c
  | none => true

/-- A character of a name. -/
def isWordChar (c : Char) : Bool := c.isAlphanum || c = '_' || c = '-'

/-- A character that means structure inside brackets and braces. -/
def isFlowIndicator (c : Char) : Bool := c = ',' || c = '[' || c = ']' || c = '{' || c = '}'

/-- What a line end contributes to a text: the separators of lines and paragraphs themselves, a
line feed for all others. -/
def breakText (c : Char) : Char := if c.toNat = 0x2028 ∨ c.toNat = 0x2029 then c else '\n'

/-- A place in the text: how many bytes stand before it, and its line and column. -/
structure Mark where
  index : Nat
  line : Nat
  column : Nat
  deriving DecidableEq, Repr

/-- What is left of the text, and the place where it begins. -/
structure Cursor where
  rest : List Char
  mark : Mark

namespace Cursor

/-- At the start of a text. -/
def start (cs : List Char) : Cursor := ⟨cs, ⟨0, 0, 0⟩⟩

/-- The next character. -/
def head? (c : Cursor) : Option Char := c.rest.head?

/-- The character `n` places ahead. -/
def ahead? (c : Cursor) (n : Nat) : Option Char := c.rest[n]?

/-- Whether the next character is `ch`. -/
def at? (c : Cursor) (ch : Char) : Bool := c.rest.head? == some ch

/-- Passes `n` characters of the line. -/
def skip (c : Cursor) (n : Nat) : Cursor :=
  ⟨c.rest.drop n,
    ⟨c.mark.index + Text.Utf8.size (c.rest.take n), c.mark.line, c.mark.column + n⟩⟩

/-- Passes a line end, which may take two characters. -/
def skipBreak (c : Cursor) : Cursor :=
  match c.rest with
  | '\r' :: '\n' :: rest => ⟨rest, ⟨c.mark.index + 2, c.mark.line + 1, 0⟩⟩
  | ch :: rest => ⟨rest, ⟨c.mark.index + ch.utf8Size, c.mark.line + 1, 0⟩⟩
  | [] => c

/-- The characters up to the first one outside a class, and the cursor there. -/
def span (c : Cursor) (p : Char → Bool) : List Char × Cursor :=
  let taken := c.rest.takeWhile p
  (taken, c.skip taken.length)

/-- Passes the characters of a class. -/
def skipWhile (c : Cursor) (p : Char → Bool) : Cursor := (c.span p).2

/-- Passes the rest of the line if a comment starts here. -/
def skipComment (c : Cursor) : Cursor :=
  if c.at? '#' then c.skipWhile (! isBreak ·) else c

/-- Whether a line consisting of three given characters and no more words starts here. -/
def startsLine (c : Cursor) (ch : Char) : Bool :=
  c.mark.column == 0 && c.rest.take 3 == [ch, ch, ch] && isBlankOrEnd (c.ahead? 3)

/-- Whether a line that separates documents starts here. -/
def atDocumentLine (c : Cursor) : Bool := c.startsLine '-' || c.startsLine '.'

end Cursor

end Rollout.Yaml
