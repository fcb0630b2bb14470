import Rollout.Yaml.Character
import Rollout.Text.Digits

/-!
# Scalars as they are written

Plain, quoted and block scalars: how their characters are read and how line ends inside them are
folded. Each reader answers the text and the cursor behind it, or nothing where the text breaks a
rule of the format.
-/

namespace Rollout.Yaml

/-! ### Gaps between words -/

/-- The blanks and line ends between two words. -/
structure Gap where
  /-- The blanks, as long as there is no line end. -/
  spaces : List Char
  /-- Whether there is a line end. -/
  broken : Bool
  /-- The first line end, if it counts. -/
  first : List Char
  /-- The line ends after it. -/
  more : List Char

/-- No gap. -/
def Gap.none : Gap := ⟨[], false, [], []⟩

/-- The gap that an escaped line end opens. -/
def Gap.escapedBreak : Gap := ⟨[], true, [], []⟩

/-- What the gap contributes to the text: a single line end is folded into a blank, and of several
the first is dropped. -/
def Gap.text (g : Gap) : List Char :=
  if g.broken then
    if g.first = ['\n'] then (if g.more.isEmpty then [' '] else g.more) else g.first ++ g.more
  else g.spaces

/-- Adds a line end to the gap. -/
def Gap.addBreak (g : Gap) (c : Char) : Gap :=
  if g.broken then { g with more := g.more ++ [breakText c] }
  else { g with spaces := [], broken := true, first := [breakText c] }

/-- Reads the blanks and line ends at the cursor. After a line end, a tab in a column below
`tabLimit` is refused. -/
def readGap (tabLimit : Nat) (g : Gap) (m : Mark) : List Char → Option (Gap × Cursor)
  | [] => some (g, ⟨[], m⟩)
  | '\r' :: '\n' :: rest => readGap tabLimit (g.addBreak '\n') ⟨m.index + 2, m.line + 1, 0⟩ rest
  | c :: rest =>
    if isBlank c then
      if g.broken && m.column < tabLimit && c = '\t' then Option.none
      else
        let g := if g.broken then g else { g with spaces := g.spaces ++ [c] }
        readGap tabLimit g ⟨m.index + 1, m.line, m.column + 1⟩ rest
    else if isBreak c then
      readGap tabLimit (g.addBreak c) ⟨m.index + c.utf8Size, m.line + 1, 0⟩ rest
    else some (g, ⟨c :: rest, m⟩)

/-! ### Quoted scalars -/

/-- The character of an escape without a number. -/
def simpleEscape? (c : Char) : Option Char :=
  match c with
  | '0' => some '\x00'
  | 'a' => some '\x07'
  | 'b' => some '\x08'
  | 't' | '\t' => some '\t'
  | 'n' => some '\n'
  | 'v' => some '\x0b'
  | 'f' => some '\x0c'
  | 'r' => some '\r'
  | 'e' => some '\x1b'
  | ' ' => some ' '
  | '\x22' => some '\x22'
  | '/' => some '/'
  | '\\' => some '\\'
  | 'N' => some (Char.ofNat 0x85)
  | '_' => some (Char.ofNat 0xA0)
  | 'L' => some (Char.ofNat 0x2028)
  | 'P' => some (Char.ofNat 0x2029)
  | _ => none

/-- How many digits follow the letter of an escape with a number. -/
def escapeWidth? (c : Char) : Option Nat :=
  if c = 'x' then some 2 else if c = 'u' then some 4 else if c = 'U' then some 8 else none

/-- Reads an escape, the cursor being at its backslash. -/
def readEscape (c : Cursor) : Option (Char × Cursor) := do
  let letter ← c.ahead? 1
  match simpleEscape? letter with
  | some ch => some (ch, c.skip 2)
  | none =>
    let width ← escapeWidth? letter
    let digits := (c.rest.drop 2).take width
    let n ← Text.digitsValue? 16 digits
    if digits.length = width ∧ n.isValidChar then some (Char.ofNat n, c.skip (2 + width)) else none

/-- Reads a quoted scalar behind its opening quote, onto the reversed text `done`. Each step reads
a character. -/
def readQuoted (single : Bool) : (steps : Nat) → Cursor → List Char → Option (List Char × Cursor)
  | 0, _, _ => none
  | steps + 1, c, done =>
    if c.atDocumentLine then none
    else
      match c.rest with
      | [] => none
      | ch :: _ =>
        if isBlank ch || isBreak ch then do
          let (gap, c) ← readGap 0 Gap.none c.mark c.rest
          readQuoted single steps c (gap.text.reverse ++ done)
        else if single then
          if ch = '\x27' then
            if c.ahead? 1 = some '\x27' then readQuoted single steps (c.skip 2) (ch :: done)
            else some (done.reverse, c.skip 1)
          else readQuoted single steps (c.skip 1) (ch :: done)
        else if ch = '\x22' then some (done.reverse, c.skip 1)
        else if ch = '\\' then
          if (c.ahead? 1).any isBreak then do
            let c := (c.skip 1).skipBreak
            let (gap, c) ← readGap 0 Gap.escapedBreak c.mark c.rest
            readQuoted single steps c (gap.text.reverse ++ done)
          else do
            let (ch, c) ← readEscape c
            readQuoted single steps c (ch :: done)
        else readQuoted single steps (c.skip 1) (ch :: done)

/-! ### Plain scalars -/

/-- Whether the character at the cursor ends a plain scalar: a colon before a blank, and inside
brackets and braces also their indicators. -/
def endsPlain (flow : Bool) (c : Cursor) (ch : Char) : Bool :=
  (ch = ':' && isBlankOrEnd (c.ahead? 1)) || (flow && isFlowIndicator ch)

/-- Reads a plain scalar in columns from `indent` on, onto the reversed text `done`; `gap` is what
lies behind the last word. The answer also says whether the scalar was followed by a line end. -/
def readPlain (flow : Bool) (indent : Nat) :
    (steps : Nat) → Cursor → (done : List Char) → Gap → (wordStart : Bool) →
      Option (List Char × Bool × Cursor)
  | 0, _, _, _, _ => none
  | steps + 1, c, done, gap, wordStart =>
    let finished := some (done.reverse, gap.broken, c)
    if wordStart && (c.atDocumentLine || c.at? '#') then finished
    else
      match c.rest with
      | [] => finished
      | ch :: _ =>
        if isBlank ch || isBreak ch then do
          let (gap, c) ← readGap indent Gap.none c.mark c.rest
          if ¬ flow ∧ c.mark.column < indent then some (done.reverse, gap.broken, c)
          else readPlain flow indent steps c done gap true
        else if flow && ch = ':' && (c.ahead? 1).any (fun d => isFlowIndicator d || d = '?') then none
        else if endsPlain flow c ch then finished
        else readPlain flow indent steps (c.skip 1) (ch :: (gap.text.reverse ++ done)) Gap.none false

/-! ### Block scalars -/

/-- What the header of a block scalar may say about the line ends behind it. -/
inductive Chomping
  | strip | clip | keep
  deriving DecidableEq, Repr

/-- Reads a chomping indicator. -/
def readChomping (c : Cursor) : Chomping × Cursor :=
  if c.at? '+' then (.keep, c.skip 1) else if c.at? '-' then (.strip, c.skip 1) else (.clip, c)

/-- Reads an indentation indicator, which is not zero. -/
def readIncrement (c : Cursor) : Option (Option Nat × Cursor) :=
  match c.head? with
  | some ch =>
    if ch.isDigit then
      if ch = '0' then none else some (some (ch.toNat - 48), c.skip 1)
    else some (none, c)
  | none => some (none, c)

/-- Reads both indicators, in either order. -/
def readHeader (c : Cursor) : Option (Chomping × Option Nat × Cursor) := do
  let (chomping, c') := readChomping c
  if c'.mark = c.mark then
    let (increment, c) ← readIncrement c
    match increment with
    | none => some (.clip, none, c)
    | some n =>
      let (chomping, c) := readChomping c
      some (chomping, some n, c)
  else
    let (increment, c) ← readIncrement c'
    some (chomping, increment, c)

/-- Passes the rest of a line that may hold nothing but blanks and a comment. -/
def skipLineEnd (c : Cursor) : Option Cursor :=
  let c := (c.skipWhile isBlank).skipComment
  match c.head? with
  | none => some c
  | some ch => if isBreak ch then some c.skipBreak else none

/-- Reads the indentation and the empty lines at the cursor. While the indentation is not known,
the deepest column is noted. The answer holds the line ends and that column. -/
def readBreaks (indent : Option Nat) (deepest : Nat) (done : List Char) (m : Mark) :
    List Char → Option (List Char × Nat × Cursor)
  | [] => some (done.reverse, max deepest m.column, ⟨[], m⟩)
  | '\r' :: '\n' :: rest =>
    readBreaks indent (max deepest m.column) ('\n' :: done) ⟨m.index + 2, m.line + 1, 0⟩ rest
  | c :: rest =>
    let inside := indent.all (m.column < ·)
    if inside && c = ' ' then
      readBreaks indent deepest done ⟨m.index + 1, m.line, m.column + 1⟩ rest
    else if inside && c = '\t' then none
    else if isBreak c then
      readBreaks indent (max deepest m.column) (breakText c :: done)
        ⟨m.index + c.utf8Size, m.line + 1, 0⟩ rest
    else some (done.reverse, max deepest m.column, ⟨c :: rest, m⟩)

/-- Reads the lines of a block scalar of a known indentation onto `done`; `pending` is the line end
of the last line, `breaks` are those of the empty lines after it. The answer holds the text and
both of them. -/
def readLines (literal : Bool) (indent : Nat) :
    (steps : Nat) → Cursor → (done pending breaks : List Char) → (afterBlank : Bool) →
      Option (List Char × List Char × List Char × Cursor)
  | 0, _, _, _, _, _ => none
  | steps + 1, c, done, pending, breaks, afterBlank =>
    if c.mark.column ≠ indent ∨ c.rest.isEmpty then some (done, pending, breaks, c)
    else do
      let blank := c.head?.any isBlank
      let joint :=
        if ¬ literal ∧ pending = ['\n'] ∧ ¬ afterBlank ∧ ¬ blank then
          if breaks.isEmpty then [' '] else []
        else pending
      let (line, c) := c.span (! isBreak ·)
      let ending := match c.head? with
        | some ch => [if ch = '\r' then '\n' else breakText ch]
        | none => []
      let c := c.skipBreak
      let (more, _, c) ← readBreaks (some indent) 0 [] c.mark c.rest
      readLines literal indent steps c (done ++ joint ++ breaks ++ line) ending more blank

/-- Reads a block scalar, the cursor being at its indicator; `parent` is the indentation of the
block around it, if there is one. -/
def readBlock (literal : Bool) (parent : Option Nat) (c : Cursor) : Option (List Char × Cursor) := do
  let (chomping, increment, c) ← readHeader (c.skip 1)
  let c ← skipLineEnd c
  let fixed := increment.map fun n => parent.getD 0 + n
  let (breaks, deepest, c) ← readBreaks fixed 0 [] c.mark c.rest
  let least := match parent with
    | some p => max (p + 1) 1
    | none => 1
  let indent := fixed.getD (max deepest least)
  let (done, pending, breaks, c) ←
    readLines literal indent (c.rest.length + 1) c [] [] breaks false
  let ending := match chomping with
    | .strip => []
    | .clip => pending
    | .keep => pending ++ breaks
  some (done ++ ending, c)

end Rollout.Yaml
