/-!
# Words and operators of the shell

A line of shell text is cut into words, operators and line ends. A word is made of parts: texts, and
variables whose values are put in later. Quotes keep blanks and operators inside a word; in double
quotes variables are still seen, in single quotes nothing is.
-/

namespace Rollout.Host.Shell

/-- What stands for the value of a variable. -/
structure Substitute where
  /-- Whether it stands for a value that is there, or for one that is not. -/
  forPresent : Bool
  /-- Whether an empty value is as good as none. -/
  needsText : Bool
  text : List Char
  deriving DecidableEq, Repr

/-- A variable in a word. -/
structure Variable where
  name : String
  substitute : Option Substitute
  deriving DecidableEq, Repr

/-- A part of a word. Outside quotes the value of a variable is cut at its blanks. -/
inductive Part
  | text (cs : List Char)
  | variable (v : Variable) (quoted : Bool)
  deriving DecidableEq, Repr

/-- A word. -/
abbrev Word : Type := List Part

/-- A piece of shell text. -/
inductive Token
  | word (w : Word)
  | operator (name : String)
  /-- `fd` and `<` or `>`, with `&` where another output is named. -/
  | redirection (fd : Nat) (sign : String)
  | lineEnd
  deriving DecidableEq, Repr

/-- Cutting stopped here, since a quote is never closed. -/
inductive Unclosed
  | quote
  deriving DecidableEq, Repr

/-! ### Variables -/

/-- A character that the name of a variable can begin with. -/
def startsName (c : Char) : Bool := c.isAlpha || c = '_'

/-- A character of a name. -/
def inName (c : Char) : Bool := c.isAlphanum || c = '_'

/-- A variable whose name is one character that says nothing elsewhere. -/
def isSpecial (c : Char) : Bool := c.isDigit || ['?', '$', '#', '@', '*', '!'].contains c

/-- The substitute that stands behind a name. -/
def substitute? : List Char → Option Substitute
  | ':' :: '-' :: text => some ⟨false, true, text⟩
  | '-' :: text => some ⟨false, false, text⟩
  | ':' :: '+' :: text => some ⟨true, true, text⟩
  | '+' :: text => some ⟨true, false, text⟩
  | _ => none

/-- The variable that stands in braces. -/
def braced (cs : List Char) : Variable :=
  let name := match cs with
    | c :: rest => if isSpecial c then [c] else c :: rest.takeWhile inName
    | [] => []
  match substitute? (cs.drop name.length) with
  | some substitute => ⟨String.ofList name, some substitute⟩
  | none => ⟨String.ofList cs, none⟩

/-- The variable behind a dollar sign, if there is one, and the text behind it. -/
def named? (cs : List Char) : Option (Variable × List Char) :=
  match cs with
  | '{' :: rest =>
    match rest.dropWhile (· ≠ '}') with
    | '}' :: after => some (braced (rest.takeWhile (· ≠ '}')), after)
    | _ => none
  | c :: rest =>
    if startsName c then
      some (⟨String.ofList (c :: rest.takeWhile inName), none⟩, rest.dropWhile inName)
    else if isSpecial c then some (⟨c.toString, none⟩, rest)
    else none
  | [] => none

/-! ### Words -/

/-- The parts between double quotes, and the text behind them. Each step reads a character, so their
number suffices. -/
def weak : Nat → List Char → Except Unclosed (Word × List Char)
  | 0, _ | _, [] => .error .quote
  | _ + 1, '\x22' :: rest => .ok ([], rest)
  | steps + 1, '\\' :: c :: rest => do
    let kept := if ['$', '\x60', '\x22', '\\'].contains c then [c]
      else if c = '\n' then []
      else ['\\', c]
    let (parts, rest) ← weak steps rest
    return (.text kept :: parts, rest)
  | steps + 1, '$' :: rest =>
    match named? rest with
    | some (v, rest) => do
      let (parts, rest) ← weak steps rest
      return (.variable v true :: parts, rest)
    | none => do
      let (parts, rest) ← weak steps rest
      return (.text ['$'] :: parts, rest)
  | steps + 1, c :: rest => do
    let (parts, rest) ← weak steps rest
    return (.text [c] :: parts, rest)

/-- A character that ends a word. -/
def endsWord (c : Char) : Bool :=
  [' ', '\t', '\n', ';', '&', '|', '<', '>', '(', ')'].contains c

/-- The parts of the word at the start of a text, and the text behind it. -/
def word : Nat → List Char → Except Unclosed (Word × List Char)
  | 0, cs => .ok ([], cs)
  | _, [] => .ok ([], [])
  | steps + 1, '\x27' :: rest =>
    match rest.dropWhile (· ≠ '\x27') with
    | [] => .error .quote
    | _ :: after => do
      let (parts, after) ← word steps after
      return (.text (rest.takeWhile (· ≠ '\x27')) :: parts, after)
  | steps + 1, '\x22' :: rest => do
    let (inner, rest) ← weak (rest.length + 1) rest
    let (parts, rest) ← word steps rest
    let kept := if inner = [.variable ⟨"@", none⟩ true] then inner else .text [] :: inner
    return (kept ++ parts, rest)
  | steps + 1, '\\' :: '\n' :: rest => word steps rest
  | steps + 1, '\\' :: c :: rest => do
    let (parts, rest) ← word steps rest
    return (.text [c] :: parts, rest)
  | steps + 1, '$' :: rest =>
    match named? rest with
    | some (v, rest) => do
      let (parts, rest) ← word steps rest
      return (.variable v false :: parts, rest)
    | none => do
      let (parts, rest) ← word steps rest
      return (.text ['$'] :: parts, rest)
  | steps + 1, c :: rest =>
    if endsWord c then .ok ([], c :: rest)
    else do
      let (parts, rest) ← word steps rest
      return (.text [c] :: parts, rest)

/-! ### Tokens -/

/-- The operator at the start of a text, and the text behind it. -/
def operator? : List Char → Option (Token × List Char)
  | '&' :: '&' :: rest => some (.operator "&&", rest)
  | '|' :: '|' :: rest => some (.operator "||", rest)
  | ';' :: ';' :: rest => some (.operator ";;", rest)
  | '&' :: rest => some (.operator "&", rest)
  | '|' :: rest => some (.operator "|", rest)
  | ';' :: rest => some (.operator ";", rest)
  | '(' :: rest => some (.operator "(", rest)
  | ')' :: rest => some (.operator ")", rest)
  | _ => none

/-- The redirection at the start of a text; a digit right before the sign names what is redirected. -/
def redirection? (cs : List Char) : Option (Token × List Char) :=
  let sign? (fd : Option Nat) : List Char → Option (Token × List Char)
    | '>' :: '&' :: rest => some (.redirection (fd.getD 1) ">&", rest)
    | '>' :: '>' :: rest => some (.redirection (fd.getD 1) ">>", rest)
    | '>' :: rest => some (.redirection (fd.getD 1) ">", rest)
    | '<' :: '&' :: rest => some (.redirection (fd.getD 0) "<&", rest)
    | '<' :: rest => some (.redirection (fd.getD 0) "<", rest)
    | _ => none
  match cs with
  | c :: rest => if c.isDigit then sign? (some (c.toNat - 48)) rest else sign? none cs
  | [] => none

/-- A token with the number of its line. -/
structure Placed where
  token : Token
  line : Nat
  deriving DecidableEq, Repr

/-- The number of line ends in a text. -/
def lineEnds (cs : List Char) : Nat := cs.count '\n'

/-- The tokens of a text from some line on, up to a quote that is never closed. Each step reads a
character, so their number suffices. -/
def tokens : (steps line : Nat) → List Char → List Placed × Option (Nat × Unclosed)
  | 0, _, _ | _, _, [] => ([], none)
  | steps + 1, line, c :: rest =>
    let add (token : Token) (line : Nat) (behind : List Char) :
        List Placed × Option (Nat × Unclosed) :=
      let (more, fault) := tokens steps line behind
      (⟨token, line⟩ :: more, fault)
    if c = ' ' ∨ c = '\t' then tokens steps line rest
    else if c = '\n' then
      let (more, fault) := tokens steps (line + 1) rest
      (⟨.lineEnd, line⟩ :: more, fault)
    else if c = '#' then tokens steps line (rest.dropWhile (· ≠ '\n'))
    else
      match redirection? (c :: rest), operator? (c :: rest) with
      | some (token, behind), _ | none, some (token, behind) => add token line behind
      | none, none =>
        match word (rest.length + 2) (c :: rest) with
        | .error fault => ([], some (line + lineEnds rest, fault))
        | .ok (parts, behind) =>
          add (.word parts) (line + (lineEnds rest - lineEnds behind)) behind

/-- The tokens of a text. -/
def Token.ofText (text : String) : List Placed × Option (Nat × Unclosed) :=
  tokens (text.length + 1) 1 text.toList

end Rollout.Host.Shell
