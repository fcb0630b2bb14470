import Rollout.Text.Digits
import Rollout.Text.Utf8

/-!
# Tags of Yaml

A tag is bytes, which it may write in hexadecimal, so it need not be a text. It names one of the
types that every document has, or, with a mark in front, a type of the document's own
(`Tag.own?`). A zero byte ends the tag, whatever follows it.
-/

namespace Rollout.Yaml

/-- The bytes of a tag, of its beginning or of its end. -/
abbrev Tag : Type := List UInt8

namespace Tag

/-- A tag that is a text. -/
def ofText (s : String) : Tag := Text.Utf8.encode s

/-- The tag that some bytes spell. -/
def ofBytes (bytes : List UInt8) : Tag := bytes.takeWhile (· ≠ 0)

/-- The text of a tag. -/
def text? (t : Tag) : Option String := Text.Utf8.decode? t

/-! ### Bytes in hexadecimal -/

/-- How many bytes a character takes, by its first byte. -/
def byteWidth? (b : Nat) : Option Nat :=
  if b < 0x80 then some 1
  else if 0xC0 ≤ b ∧ b < 0xE0 then some 2
  else if 0xE0 ≤ b ∧ b < 0xF0 then some 3
  else if 0xF0 ≤ b ∧ b < 0xF8 then some 4
  else none

/-- The bytes that the characters of a tag stand for. Those of one character are written together;
`pending` counts the ones that the current character still takes. -/
def bytes? (pending : Nat) : List Char → Option (List UInt8)
  | '%' :: a :: b :: rest => do
    let byte ← Text.digitsValue? 16 [a, b]
    let pending ←
      if pending = 0 then (byteWidth? byte).map (· - 1)
      else if 0x80 ≤ byte ∧ byte < 0xC0 then some (pending - 1)
      else none
    let bytes ← bytes? pending rest
    some (byte.toUInt8 :: bytes)
  | [] => if pending = 0 then some [] else none
  | c :: rest =>
    if pending ≠ 0 ∨ c = '%' then none
    else (bytes? 0 rest).map (Text.Utf8.encode c.toString ++ ·)

/-! ### Types -/

/-- The tag that names no type. -/
def unnamed : Tag := ofText "!"

/-- A name without the mark in front of it, unless it is nothing but the mark. -/
def unmarked : List Char → List Char
  | '!' :: c :: rest => c :: rest
  | name => name

/-- Whether a tag names a type of the document's own. -/
def isOwn (t : Tag) : Bool := t.head? == unnamed.head?

/-- The name of a type of the document's own. A second mark says nothing. -/
def own? (t : Tag) : Option String :=
  if t.isOwn then t.text?.map fun s => String.ofList (unmarked (unmarked s.toList)) else none

end Tag

end Rollout.Yaml
