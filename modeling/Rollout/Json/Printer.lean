import Rollout.Json

/-!
# Json text

Two layouts of one grammar: `Json.render` writes a value on one line without blanks, `Json.pretty`
writes each item and field on a line of its own, two blanks further in than what holds it.

In a text a quote, a backslash and the control characters are escaped, all else stands as it is.
-/

namespace Rollout.Json

/-- A digit of a hexadecimal number. -/
def hexDigit (n : Nat) : Char := if n < 10 then Char.ofNat (48 + n) else Char.ofNat (87 + n)

/-- A character inside a text. -/
def escape (c : Char) : List Char :=
  if c = '\x22' then ['\\', '\x22']
  else if c = '\\' then ['\\', '\\']
  else if c = '\n' then ['\\', 'n']
  else if c = '\r' then ['\\', 'r']
  else if c = '\t' then ['\\', 't']
  else if c = '\x08' then ['\\', 'b']
  else if c = '\x0c' then ['\\', 'f']
  else if c.toNat < 32 then ['\\', 'u', '0', '0', hexDigit (c.toNat / 16), hexDigit (c.toNat % 16)]
  else [c]

/-- A text between quotes. -/
def quote (s : String) : List Char := '\x22' :: s.toList.flatMap escape ++ ['\x22']

/-- A decimal that is not whole, as digits and an exponent. -/
def renderReal (negative : Bool) (digits : Nat) (exponent : Int) : List Char :=
  (if negative then ['-'] else []) ++ (toString digits).toList ++
    (if exponent = 0 then ['.', '0'] else 'e' :: (toString exponent).toList)

/-! ### One line -/

mutual
/-- The value on one line. -/
def renderChars : Json → List Char
  | null => ['n', 'u', 'l', 'l']
  | bool true => ['t', 'r', 'u', 'e']
  | bool false => ['f', 'a', 'l', 's', 'e']
  | int n => (toString n).toList
  | real negative digits exponent => renderReal negative digits exponent
  | text s => quote s
  | list items => '[' :: renderItems items ++ [']']
  | object fields => '{' :: renderFields fields ++ ['}']

def renderItems : List Json → List Char
  | [] => []
  | [j] => renderChars j
  | j :: k :: rest => renderChars j ++ ',' :: renderItems (k :: rest)

def renderFields : List (String × Json) → List Char
  | [] => []
  | [(name, j)] => quote name ++ ':' :: renderChars j
  | (name, j) :: f :: rest => quote name ++ ':' :: renderChars j ++ ',' :: renderFields (f :: rest)
end

/-- The value on one line. -/
def render (j : Json) : String := String.ofList j.renderChars

/-! ### One line per item -/

/-- A line end and the indentation of the next line. -/
def newline (depth : Nat) : List Char := '\n' :: List.replicate (2 * depth) ' '

mutual
/-- The value with its items and fields on lines of their own, `depth` levels in. -/
def prettyChars (depth : Nat) : Json → List Char
  | list [] => ['[', ']']
  | list (j :: rest) =>
    '[' :: newline (depth + 1) ++ prettyItems (depth + 1) (j :: rest) ++ newline depth ++ [']']
  | object [] => ['{', '}']
  | object (f :: rest) =>
    '{' :: newline (depth + 1) ++ prettyFields (depth + 1) (f :: rest) ++ newline depth ++ ['}']
  | null => renderChars null
  | bool b => renderChars (bool b)
  | int n => renderChars (int n)
  | real negative digits exponent => renderReal negative digits exponent
  | text s => quote s

def prettyItems (depth : Nat) : List Json → List Char
  | [] => []
  | [j] => prettyChars depth j
  | j :: k :: rest => prettyChars depth j ++ ',' :: newline depth ++ prettyItems depth (k :: rest)

def prettyFields (depth : Nat) : List (String × Json) → List Char
  | [] => []
  | [(name, j)] => quote name ++ ':' :: ' ' :: prettyChars depth j
  | (name, j) :: f :: rest =>
    quote name ++ ':' :: ' ' :: prettyChars depth j ++ ',' :: newline depth ++
      prettyFields depth (f :: rest)
end

/-- The value with its items and fields on lines of their own. -/
def pretty (j : Json) : String := String.ofList (j.prettyChars 0)

end Rollout.Json
