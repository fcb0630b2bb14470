import Rollout.Toml.Draft
import Rollout.Toml.Scalar

/-!
# Reading Toml

A document is lines: pairs of a key and a value, and headers that say to which table the pairs
behind them belong. `Toml.parse?` answers the table of the whole document, or nothing where a line
breaks a rule or names what another line has named already.
-/

namespace Rollout.Toml

/-! ### Between values -/

/-- Passes a comment up to the end of its line. -/
def comment? (cs : List Char) : Option (List Char) :=
  match cs with
  | '#' :: rest =>
    let after := rest.dropWhile fun c => !isControl c
    if after.isEmpty ∨ (lineEnd? after).isSome then some after else none
  | rest => some rest

/-- Passes blanks, comments and line ends. -/
def skipLines? : (steps : Nat) → List Char → Option (List Char)
  | 0, _ => none
  | steps + 1, cs => do
    let cs ← comment? (skipSpace cs)
    match lineEnd? cs with
    | some rest => skipLines? steps rest
    | none => some cs

/-- Passes blanks, comments and line ends. -/
def skipGap? (cs : List Char) : Option (List Char) := skipLines? (cs.length + 1) cs

/-- Passes the end of a line behind its contents. -/
def endLine? (cs : List Char) : Option (List Char) := do
  let cs ← comment? (skipSpace cs)
  if cs.isEmpty then some [] else lineEnd? cs

/-! ### Keys -/

/-- Reads a part of a key. -/
def keyPart? (cs : List Char) : Option (String × List Char) :=
  match cs with
  | '\x22' :: rest => lineText? '\x22' (rest.length + 1) [] rest
  | '\x27' :: rest => lineText? '\x27' (rest.length + 1) [] rest
  | cs =>
    let name := cs.takeWhile isKeyChar
    if name.isEmpty then none else some (String.ofList name, cs.dropWhile isKeyChar)

/-- How deep lists and tables may stand in one another, and how many parts a key may have. -/
def maxDepth : Nat := 80

/-- Reads the parts of a key, of which `parts` more are allowed; the answer holds the last one
apart. -/
def keyParts? : (parts : Nat) → (path : List String) → List Char →
    Option (List String × String × List Char)
  | 0, _, _ => none
  | parts + 1, path, cs => do
    let (part, cs) ← keyPart? (skipSpace cs)
    match skipSpace cs with
    | '.' :: rest => keyParts? parts (path ++ [part]) rest
    | rest => some (path, part, rest)

/-- Reads a key. -/
def key? (cs : List Char) : Option (List String × String × List Char) := keyParts? maxDepth [] cs

/-- Reads a key and the sign of equality behind it. Inside braces they may stand on lines of their
own. -/
def keyEquals? (inBraces : Bool) (cs : List Char) :
    Option (List String × String × List Char) := do
  let skip? (cs : List Char) := if inBraces then skipGap? cs else some (skipSpace cs)
  let (path, key, cs) ← key? cs
  match ← skip? cs with
  | '=' :: rest => some (path, key, ← skip? rest)
  | _ => none

/-! ### Values -/

mutual
/-- Reads a value, with `depth` more levels of nesting allowed. -/
def value? : (fuel depth : Nat) → List Char → Option (Toml × List Char)
  | 0, _, _ => none
  | fuel + 1, depth, cs =>
    match cs with
    | '[' :: rest =>
      match depth with
      | 0 => none
      | depth + 1 => (items? fuel depth [] rest).map fun (items, rest) => (.list items, rest)
    | '{' :: rest =>
      match depth with
      | 0 => none
      | depth + 1 =>
        (pairs? fuel depth [] rest).map fun (fields, rest) =>
          (.table (Draft.valueFields fields), rest)
    | '\x22' :: _ => (text? '\x22' cs).map fun (s, rest) => (.text s, rest)
    | '\x27' :: _ => (text? '\x27' cs).map fun (s, rest) => (.text s, rest)
    | cs => scalar? cs

/-- Reads the items of a list up to its end. -/
def items? : (fuel depth : Nat) → (done : List Toml) → List Char →
    Option (List Toml × List Char)
  | 0, _, _, _ => none
  | fuel + 1, depth, done, cs => do
    match ← skipGap? cs with
    | ']' :: rest => some (done, rest)
    | cs =>
      let (v, cs) ← value? fuel depth cs
      match ← skipGap? cs with
      | ',' :: rest => items? fuel depth (done ++ [v]) rest
      | ']' :: rest => some (done ++ [v], rest)
      | _ => none

/-- Reads the pairs of a table in braces up to its end. -/
def pairs? : (fuel depth : Nat) → (done : Fields) → List Char → Option (Fields × List Char)
  | 0, _, _, _ => none
  | fuel + 1, depth, done, cs => do
    match ← skipGap? cs with
    | '}' :: rest => some (done, rest)
    | cs =>
      let (path, key, cs) ← keyEquals? true cs
      let (v, cs) ← value? fuel depth cs
      let done ← done.addPair? path key v
      match ← skipGap? cs with
      | ',' :: rest => pairs? fuel depth done rest
      | '}' :: rest => some (done, rest)
      | _ => none
end

/-! ### Documents -/

/-- The document as far as it has been read, and the path of the table to which pairs belong. -/
structure Progress where
  fields : Fields
  header : List String

/-- Reads a header behind its first bracket. -/
def header? (p : Progress) (cs : List Char) : Option (Progress × List Char) :=
  match cs with
  | '[' :: rest => do
    let (path, key, rest) ← key? rest
    match rest with
    | ']' :: ']' :: rest => some (⟨← p.fields.openRow? path key, path ++ [key]⟩, rest)
    | _ => none
  | rest => do
    let (path, key, rest) ← key? rest
    match rest with
    | ']' :: rest => some (⟨← p.fields.openTable? path key, path ++ [key]⟩, rest)
    | _ => none

/-- Reads a pair into the table to which it belongs. -/
def pair? (p : Progress) (cs : List Char) : Option (Progress × List Char) := do
  let (path, key, cs) ← keyEquals? false cs
  let (v, cs) ← value? (cs.length + 1) maxDepth cs
  let fields ← p.fields.within (·.addPair? path key v) p.header
  some (⟨fields, p.header⟩, cs)

/-- Reads the lines of a document. -/
def lines? : (steps : Nat) → Progress → List Char → Option Fields
  | 0, _, _ => none
  | steps + 1, p, cs => do
    match ← skipGap? cs with
    | [] => some p.fields
    | cs =>
      let (p, cs) ←
        match cs with
        | '[' :: rest => header? p rest
        | cs => pair? p cs
      lines? steps p (← endLine? cs)

/-- The table that a document spells. A byte order mark may stand before it. -/
def parse? (s : String) : Option Toml := do
  let cs := match s.toList with
    | c :: rest => if c.toNat = 0xFEFF then rest else c :: rest
    | [] => []
  let fields ← lines? (cs.length + 1) ⟨[], []⟩ cs
  some (.table (Draft.valueFields fields))

end Rollout.Toml
