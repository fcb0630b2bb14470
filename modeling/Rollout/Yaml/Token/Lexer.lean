import Rollout.Yaml.Token
import Rollout.Yaml.Token.Text

/-!
# Cutting a stream into tokens

What a scalar means depends on what follows it: `a` is a value, but in `a: b` it is the key of a
mapping that begins before it. The lexer therefore keeps, for each level of brackets, the last
place that may turn out to be a key; a colon then puts the key's token, and the start of its block
where one begins, back at that place.

Indentation outside brackets becomes tokens: the columns of the open blocks are kept innermost
first, and a token further out closes the blocks that it leaves.

`Token.ofText?` is the whole of it; it answers nothing for a text that breaks a rule of the format.
-/

namespace Rollout.Yaml

/-- A place that may turn out to be a key. -/
structure Candidate where
  /-- How many tokens stand before it. -/
  position : Nat
  mark : Mark
  /-- Whether nothing but a key can stand there. -/
  required : Bool

/-- How far a stream has been cut. -/
structure Lexer where
  cursor : Cursor
  tokens : Array Token
  /-- The columns of the open blocks, innermost first. -/
  blocks : List Nat
  /-- Whether a key may begin here. -/
  keyAllowed : Bool
  /-- The candidate of the innermost level. -/
  candidate : Option Candidate
  /-- The candidates of the levels around it, one for each open bracket. -/
  outer : List (Option Candidate)

namespace Lexer

/-- At the start of a stream. -/
def start (cs : List Char) : Lexer := ⟨Cursor.start cs, #[], [], true, none, []⟩

/-- Whether a bracket is open. -/
def inFlow (s : Lexer) : Bool := !s.outer.isEmpty

/-- Appends a token that takes `n` characters. -/
def emit (s : Lexer) (t : Token) (n : Nat) : Lexer :=
  { s with tokens := s.tokens.push t, cursor := s.cursor.skip n }

/-- Appends a token whose reading led to `cursor`. -/
def emitTo (s : Lexer) (t : Token) (cursor : Cursor) : Lexer :=
  { s with tokens := s.tokens.push t, cursor }

/-! ### Between tokens -/

/-- Passes blanks, comments and line ends. A tab counts as a blank only where no key can begin, and
a line end outside brackets allows a key again. -/
def skipGap : (steps : Nat) → Lexer → Lexer
  | 0, s => s
  | steps + 1, s =>
    let c := s.cursor
    let c := if c.mark.column = 0 ∧ c.head? = some (Char.ofNat 0xFEFF) then c.skip 1 else c
    let tabs := s.inFlow || !s.keyAllowed
    let c := (c.skipWhile fun ch => ch = ' ' || (tabs && ch = '\t')).skipComment
    if c.head?.any isBreak then
      skipGap steps { s with cursor := c.skipBreak, keyAllowed := s.keyAllowed || !s.inFlow }
    else { s with cursor := c }

/-- How many bytes a key may have. -/
def maxKeyLength : Nat := 1024

/-- Whether a candidate is too far back: a key stands on one line and is not too long. -/
def isStale (m : Mark) (k : Candidate) : Bool :=
  k.mark.line < m.line || k.mark.index + maxKeyLength < m.index

/-- Gives up a candidate that is too far back, unless it has to be a key. -/
def dropStale (m : Mark) : Option Candidate → Option (Option Candidate)
  | none => some none
  | some k => if isStale m k then (if k.required then none else some none) else some (some k)

/-- Gives up all candidates that are too far back. -/
def dropStaleKeys (s : Lexer) : Option Lexer := do
  let candidate ← dropStale s.cursor.mark s.candidate
  let outer ← s.outer.mapM (dropStale s.cursor.mark)
  some { s with candidate, outer }

/-! ### Blocks and keys -/

/-- Closes the blocks further in than `column`, or all of them. -/
def closeBlocks (s : Lexer) (column : Option Nat) : Lexer :=
  if s.inFlow then s
  else
    let closed := s.blocks.takeWhile fun block => column.all (· < block)
    { s with
      blocks := s.blocks.drop closed.length
      tokens := s.tokens ++ closed.map fun _ => Token.blockEnd }

/-- Opens a block at `column` if it lies further in than the innermost one. Its token goes to
`position`. -/
def openBlock (s : Lexer) (column position : Nat) (t : Token) : Lexer :=
  if s.inFlow || !s.blocks.head?.all (· < column) then s
  else { s with blocks := column :: s.blocks, tokens := s.tokens.insertIdxIfInBounds position t }

/-- Gives up the candidate of this level, unless it has to be a key. -/
def removeKey (s : Lexer) : Option Lexer :=
  if s.candidate.any (·.required) then none else some { s with candidate := none }

/-- Notes that the next token may turn out to be a key. -/
def saveKey (s : Lexer) : Option Lexer :=
  if s.keyAllowed then do
    let s ← s.removeKey
    let m := s.cursor.mark
    let required := !s.inFlow && s.blocks.head? == some m.column
    some { s with candidate := some ⟨s.tokens.size, m, required⟩ }
  else some s

/-! ### The tokens -/

/-- The end of the stream. -/
def streamEnd (s : Lexer) : Option Lexer := do
  let s ← (s.closeBlocks none).removeKey
  some (s.emit .streamEnd 0)

/-- A line that separates documents. -/
def documentLine (s : Lexer) (t : Token) : Option Lexer := do
  let s ← (s.closeBlocks none).removeKey
  some ({ s with keyAllowed := false }.emit t 3)

/-- An opening bracket or brace. -/
def flowStart (s : Lexer) (t : Token) : Option Lexer := do
  let s ← s.saveKey
  some ({ s with outer := s.candidate :: s.outer, candidate := none, keyAllowed := true }.emit t 1)

/-- A closing bracket or brace. -/
def flowEnd (s : Lexer) (t : Token) : Option Lexer := do
  let s ← s.removeKey
  let s := match s.outer with
    | candidate :: outer => { s with candidate, outer }
    | [] => s
  some ({ s with keyAllowed := false }.emit t 1)

/-- A comma. -/
def flowEntry (s : Lexer) : Option Lexer := do
  let s ← s.removeKey
  some ({ s with keyAllowed := true }.emit .flowEntry 1)

/-- Opens a block for an indicator that stands here, which has to be allowed. -/
def openBlockHere (s : Lexer) (t : Token) : Option Lexer :=
  if s.inFlow then some s
  else if s.keyAllowed then some (s.openBlock s.cursor.mark.column s.tokens.size t)
  else none

/-- A dash. -/
def blockEntry (s : Lexer) : Option Lexer := do
  let s ← (← s.openBlockHere .blockSequenceStart).removeKey
  some ({ s with keyAllowed := true }.emit .blockEntry 1)

/-- A question mark. -/
def keyIndicator (s : Lexer) : Option Lexer := do
  let s ← (← s.openBlockHere .blockMappingStart).removeKey
  some ({ s with keyAllowed := !s.inFlow }.emit .key 1)

/-- A colon, which makes the candidate a key. -/
def valueIndicator (s : Lexer) : Option Lexer :=
  match s.candidate with
  | some k =>
    let s := { s with tokens := s.tokens.insertIdxIfInBounds k.position .key, candidate := none }
    let s := s.openBlock k.mark.column k.position .blockMappingStart
    some ({ s with keyAllowed := false }.emit .value 1)
  | none => do
    let s ← s.openBlockHere .blockMappingStart
    some ({ s with keyAllowed := !s.inFlow }.emit .value 1)

/-! ### Names and tags -/

/-- Reads the name of an anchor or alias. -/
def name? (c : Cursor) : Option (String × Cursor) :=
  let (name, c) := (c.skip 1).span isWordChar
  let ended := isBlankOrEnd c.head? || c.head?.any fun ch => "?:,]\x7d%@\x60".toList.contains ch
  if name.isEmpty || !ended then none else some (String.ofList name, c)

/-- A character of a tag. -/
def isTagChar (brackets : Bool) (c : Char) : Bool :=
  isWordChar c || ";/?:@&=+$.%!~*'()".toList.contains c || (brackets && ",[]".toList.contains c)

/-- Reads the characters of a tag. -/
def tagBytes? (brackets : Bool) (c : Cursor) : Option (List UInt8 × Cursor) := do
  let (written, c) := c.span (isTagChar brackets)
  some (← Tag.bytes? 0 written, c)

/-- Reads the handle of a tag. -/
def tagHandle? (c : Cursor) : Option (List Char × Cursor) :=
  if c.at? '!' then
    let (name, c) := (c.skip 1).span isWordChar
    if c.at? '!' then some ('!' :: name ++ ['!'], c.skip 1) else some ('!' :: name, c)
  else none

/-- Reads a tag: verbatim, with a handle of its own, or with the primary handle. -/
def tag? (c : Cursor) : Option (Token × Cursor) :=
  if c.ahead? 1 = some '<' then do
    let (suffix, c) ← tagBytes? true (c.skip 2)
    if suffix.isEmpty || !c.at? '>' then none else some (.tag "" (.ofBytes suffix), c.skip 1)
  else do
    let (handle, c) ← tagHandle? c
    let (suffix, c) ← tagBytes? false c
    if 1 < handle.length ∧ handle.getLast? = some '!' then
      if suffix.isEmpty then none else some (.tag (String.ofList handle) (.ofBytes suffix), c)
    else
      let suffix := Tag.ofBytes (Tag.ofText (String.ofList (handle.drop 1)) ++ suffix)
      some (if suffix.isEmpty then .tag "" .unnamed else .tag "!" suffix, c)

/-! ### Directives -/

/-- Reads a number of a version. -/
def versionNumber? (c : Cursor) : Option (Nat × Cursor) :=
  let (digits, c) := c.span Char.isDigit
  if digits.isEmpty || 9 < digits.length then none
  else some (digits.foldl (fun n d => n * 10 + (d.toNat - 48)) 0, c)

/-- Reads the value of a version directive. -/
def versionDirective? (c : Cursor) : Option (Token × Cursor) := do
  let (major, c) ← versionNumber? c
  if c.at? '.' then
    let (minor, c) ← versionNumber? (c.skip 1)
    some (.versionDirective major minor, c)
  else none

/-- Reads the value of a tag directive. -/
def tagDirective? (c : Cursor) : Option (Token × Cursor) := do
  let (handle, c) ← tagHandle? c
  if handle.getLast? ≠ some '!' ∨ ¬ c.head?.any isBlank then none
  else
    let (expansion, c) ← tagBytes? true (c.skipWhile isBlank)
    if expansion.isEmpty || !isBlankOrEnd c.head? then none
    else some (.tagDirective (String.ofList handle) (.ofBytes expansion), c)

/-- Reads a directive and the rest of its line. -/
def directive? (c : Cursor) : Option (Token × Cursor) := do
  let (name, c) := (c.skip 1).span isWordChar
  if name.isEmpty || !isBlankOrEnd c.head? then none
  else
    let c := c.skipWhile isBlank
    let (token, c) ← match String.ofList name with
      | "YAML" => versionDirective? c
      | "TAG" => tagDirective? c
      | _ => none
    some (token, ← skipLineEnd c)

/-! ### One token -/

/-- Appends a directive. -/
def directive (s : Lexer) : Option Lexer := do
  let s ← (s.closeBlocks none).removeKey
  let (token, c) ← directive? s.cursor
  some ({ s with keyAllowed := false }.emitTo token c)

/-- Appends an anchor or an alias. -/
def named (s : Lexer) (t : String → Token) : Option Lexer := do
  let s ← s.saveKey
  let (name, c) ← name? s.cursor
  some ({ s with keyAllowed := false }.emitTo (t name) c)

/-- Appends a tag. -/
def tag (s : Lexer) : Option Lexer := do
  let s ← s.saveKey
  let (token, c) ← tag? s.cursor
  if isBlankOrEnd c.head? || (s.inFlow && c.at? ',') then
    some ({ s with keyAllowed := false }.emitTo token c)
  else none

/-- Appends a block scalar. -/
def blockScalar (s : Lexer) (literal : Bool) : Option Lexer := do
  let s ← s.removeKey
  let (text, c) ← readBlock literal s.blocks.head? s.cursor
  some ({ s with keyAllowed := true }.emitTo (.scalar (String.ofList text) false) c)

/-- Appends a quoted scalar. -/
def quotedScalar (s : Lexer) (single : Bool) : Option Lexer := do
  let s ← s.saveKey
  let (text, c) ← readQuoted single (s.cursor.rest.length + 1) (s.cursor.skip 1) []
  some ({ s with keyAllowed := false }.emitTo (.scalar (String.ofList text) false) c)

/-- Appends a plain scalar. -/
def plainScalar (s : Lexer) : Option Lexer := do
  let s ← s.saveKey
  let indent := (s.blocks.head?.map (· + 1)).getD 0
  let (text, broken, c) ←
    readPlain s.inFlow indent (2 * s.cursor.rest.length + 2) s.cursor [] Gap.none true
  some ({ s with keyAllowed := broken }.emitTo (.scalar (String.ofList text) true) c)

/-- Whether a plain scalar can begin with `ch` at the cursor. -/
def startsPlain (s : Lexer) (ch : Char) : Bool :=
  let next := s.cursor.ahead? 1
  if ch = '-' then !next.any isBlank
  else if ch = '?' ∨ ch = ':' then !s.inFlow && !isBlankOrEnd next
  else !(isBlank ch || isBreak ch || ",[]\x7b\x7d#&*!|>\x27\x22%@\x60".toList.contains ch)

/-- Appends the tokens that begin at the cursor, where a token begins. -/
def token (s : Lexer) : Option Lexer :=
  match s.cursor.head? with
  | none => s.streamEnd
  | some ch =>
    let column := s.cursor.mark.column
    let spaced := isBlankOrEnd (s.cursor.ahead? 1)
    if column = 0 ∧ ch = '%' then s.directive
    else if s.cursor.startsLine '-' then s.documentLine .documentStart
    else if s.cursor.startsLine '.' then s.documentLine .documentEnd
    else if ch = '[' then s.flowStart .flowSequenceStart
    else if ch = '{' then s.flowStart .flowMappingStart
    else if ch = ']' then s.flowEnd .flowSequenceEnd
    else if ch = '}' then s.flowEnd .flowMappingEnd
    else if ch = ',' then s.flowEntry
    else if ch = '-' ∧ spaced then s.blockEntry
    else if ch = '?' ∧ (s.inFlow ∨ spaced) then s.keyIndicator
    else if ch = ':' ∧ (s.inFlow ∨ spaced) then s.valueIndicator
    else if ch = '*' then s.named .alias
    else if ch = '&' then s.named .anchor
    else if ch = '!' then s.tag
    else if ch = '|' ∧ ¬ s.inFlow then s.blockScalar true
    else if ch = '>' ∧ ¬ s.inFlow then s.blockScalar false
    else if ch = '\x27' then s.quotedScalar true
    else if ch = '\x22' then s.quotedScalar false
    else if s.startsPlain ch then s.plainScalar
    else none

/-- Cuts the rest of the stream. Each step reads a character or is the last. -/
def run : (steps : Nat) → Lexer → Option Lexer
  | 0, _ => none
  | steps + 1, s => do
    let s := s.skipGap (s.cursor.rest.length + 1)
    let s ← s.dropStaleKeys
    let s := s.closeBlocks (some s.cursor.mark.column)
    let atEnd := s.cursor.rest.isEmpty
    let s ← s.token
    if atEnd then some s else run steps s

end Lexer

/-- The tokens of a stream. -/
def Token.ofText? (text : String) : Option (List Token) :=
  let cs := text.toList
  if cs.all isAllowed then
    ((Lexer.start cs).run (cs.length + 1)).map fun s => s.tokens.toList
  else none

end Rollout.Yaml
