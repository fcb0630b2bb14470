import Rollout.Environment
import Rollout.Text.Alphanumeric
import Rollout.Text.Blank

/-!
# Environment files

An environment file holds definitions `NAME=value`, one on a line. A value may stand in quotes, which
may hold line ends. Outside single quotes a dollar sign with a name behind it, which may stand in
braces, is the value of a variable: of the environment in which the file is read, or else of a
definition further up in the file.

`EnvironmentFile.parse?` answers the definitions in their order, or nothing where the file breaks
these rules.
-/

namespace Rollout.EnvironmentFile

/-! ### Logical lines -/

/-- Where the reader of a line stands. -/
inductive Place
  | outside
  /-- Behind a blank, where a comment may begin. -/
  | afterBlank
  /-- Behind a backslash outside quotes. -/
  | escaped
  /-- Between double quotes, or behind a backslash there. -/
  | weak (escaped : Bool)
  /-- Between single quotes, or behind a backslash there. -/
  | strong (escaped : Bool)
  deriving DecidableEq, Repr

/-- The place behind a character outside quotes. -/
def Place.open (c : Char) : Place :=
  if c = '\\' then .escaped
  else if c = '\x22' then .weak false
  else if c = '\x27' then .strong false
  else .outside

/-- The place behind a character that begins no comment. -/
def Place.next (place : Place) (c : Char) : Place :=
  match place with
  | .outside =>
    if Text.isBlank c && c ≠ '\n' && c ≠ '\r' then .afterBlank else Place.open c
  | .afterBlank => Place.open c
  | .escaped => .outside
  | .weak true => .weak false
  | .weak false => if c = '\\' then .weak true else if c = '\x22' then .outside else .weak false
  | .strong true => .strong false
  | .strong false =>
    if c = '\\' then .strong true else if c = '\x27' then .outside else .strong false

/-- How reading a physical line ended. -/
inductive Ending
  /-- A comment begins here. -/
  | comment
  /-- The line has been read to its end. -/
  | at (place : Place)
  deriving DecidableEq, Repr

/-- Reads a physical line up to a comment; the answer holds what stands before it. -/
def readLine (place : Place) : List Char → List Char × Ending
  | [] => ([], .at place)
  | c :: rest =>
    if place = .afterBlank ∧ c = '#' then ([], .comment)
    else
      let (read, ending) := readLine (place.next c) rest
      (c :: read, ending)

/-- Cuts a text into physical lines, which keep their line ends. -/
def physicalLines : List Char → List (List Char)
  | [] => []
  | c :: rest =>
    if c = '\n' then [c] :: physicalLines rest
    else
      match physicalLines rest with
      | [] => [[c]]
      | line :: lines => (c :: line) :: lines

/-- A line without its line end. -/
def dropLineEnd (line : List Char) : List Char :=
  if line.getLast? = some '\n' then
    let line := line.dropLast
    if line.getLast? = some '\r' then line.dropLast else line
  else line

/-- Whether a line holds nothing but a comment. -/
def isComment (line : List Char) : Bool := (Text.dropBlanks line).head? == some '#'

/-- Joins physical lines into logical ones: a line that ends inside quotes, behind a backslash or
behind a blank is continued. `buffer` is the logical line so far. -/
def logicalLines? (buffer : List Char) (place : Place) :
    List (List Char) → Option (List (List Char))
  | [] => if place = .outside then some [] else none
  | line :: rest =>
    if isComment (buffer ++ line) then logicalLines? [] .outside rest
    else
      match readLine place line with
      | (read, .comment) => (logicalLines? [] .outside rest).map ((buffer ++ read) :: ·)
      | (_, .at .outside) =>
        (logicalLines? [] .outside rest).map (dropLineEnd (buffer ++ line) :: ·)
      | (_, .at place) => logicalLines? (buffer ++ line) place rest

/-! ### Values -/

/-- How far a value has been read. -/
inductive ValuePlace
  | plain
  | weak
  | strong
  /-- Behind a backslash; the flag says whether between double quotes. -/
  | escape (quoted : Bool)
  /-- In a name behind a dollar sign; the flags say whether between double quotes, and whether the
  name stands in braces. -/
  | name (quoted braced : Bool) (reversed : List Char)
  /-- Behind the blank that ends a value. -/
  | ended
  deriving DecidableEq, Repr

/-- The place outside a name or an escape. -/
def ValuePlace.back (quoted : Bool) : ValuePlace := if quoted then .weak else .plain

/-- What a variable stands for: its value in the environment, or its last definition. -/
def substitute (env : Environment) (defined : List (String × String)) (name : List Char) :
    List Char :=
  let name := String.ofList name.reverse
  match (env name).text? with
  | some value => value.toList
  | none => ((defined.reverse.lookup name).getD "").toList

/-- The character of an escape. -/
def escape? (c : Char) : Option Char :=
  if c = '\\' ∨ c = '\x27' ∨ c = '\x22' ∨ c = '$' ∨ c = ' ' then some c
  else if c = 'n' then some '\n'
  else none

/-- Reads a value onto the characters `done`. -/
def readValue? (env : Environment) (defined : List (String × String)) (done : List Char) :
    ValuePlace → List Char → Option (List Char)
  | place, [] =>
    match place with
    | .weak | .strong | .name true _ _ | .escape true | .name _ true _ => none
    | .name false false name => some (done ++ substitute env defined name)
    | .plain | .escape false | .ended => some done
  | .ended, c :: rest =>
    if c = ' ' ∨ c = '\t' then readValue? env defined done .ended rest
    else if c = '#' then some done
    else none
  | .escape quoted, c :: rest => do
    readValue? env defined (done ++ [← escape? c]) (.back quoted) rest
  | .strong, c :: rest =>
    if c = '\x27' then readValue? env defined done .plain rest
    else readValue? env defined (done ++ [c]) .strong rest
  | .name quoted braced name, c :: rest =>
    if Text.isAlphanumeric c then readValue? env defined done (.name quoted braced (c :: name)) rest
    else if braced then
      if c = '}' then
        readValue? env defined (done ++ substitute env defined name) (.back quoted) rest
      else readValue? env defined done (.name quoted true (c :: name)) rest
    else if c = '{' ∧ name.isEmpty then readValue? env defined done (.name quoted true []) rest
    else
      let done := done ++ substitute env defined name
      if c = '$' then readValue? env defined done (.name quoted false []) rest
      else readValue? env defined (done ++ [c]) (.back quoted) rest
  | .weak, c :: rest =>
    if c = '$' then readValue? env defined done (.name true false []) rest
    else if c = '\x22' then readValue? env defined done .plain rest
    else if c = '\\' then readValue? env defined done (.escape true) rest
    else readValue? env defined (done ++ [c]) .weak rest
  | .plain, c :: rest =>
    if c = '$' then readValue? env defined done (.name false false []) rest
    else if c = '\x27' then readValue? env defined done .strong rest
    else if c = '\x22' then readValue? env defined done .weak rest
    else if c = '\\' then readValue? env defined done (.escape false) rest
    else if c = ' ' ∨ c = '\t' then readValue? env defined done .ended rest
    else readValue? env defined (done ++ [c]) .plain rest

/-! ### Definitions -/

/-- Reads a name. -/
def readName? (cs : List Char) : Option (List Char × List Char) :=
  match cs with
  | c :: _ =>
    if c.isAlpha || c = '_' then
      let inName (c : Char) : Bool := c.isAlphanum || c = '_' || c = '.'
      some (cs.takeWhile inName, cs.dropWhile inName)
    else none
  | [] => none

/-- Passes the sign of equality. -/
def afterEquals? : List Char → Option (List Char)
  | '=' :: rest => some rest
  | _ => none

/-- Reads a name and the sign of equality behind it. The word `export` in front of the name says
nothing, unless it is the name. -/
def readKey? (cs : List Char) : Option (String × List Char) := do
  let (name, rest) ← readName? cs
  let rest := Text.dropBlanks rest
  match afterEquals? rest with
  | some value => some (String.ofList name, value)
  | none =>
    if String.ofList name = "export" then
      let (name, rest) ← readName? rest
      let value ← afterEquals? (Text.dropBlanks rest)
      some (String.ofList name, value)
    else none

/-- Whether nothing but a comment is left of a line. -/
def isSpent (cs : List Char) : Bool := cs.isEmpty || cs.head? == some '#'

/-- Reads a logical line, adding its definition to those before it. -/
def addLine? (env : Environment) (defined : List (String × String)) (line : List Char) :
    Option (List (String × String)) := do
  let cs := Text.dropBlanks (Text.dropBlanksEnd line)
  if isSpent cs then some defined
  else
    let (name, value) ← readKey? cs
    let value := Text.dropBlanks value
    if isSpent value then some (defined ++ [(name, "")])
    else
      let value ← readValue? env defined [] .plain value
      some (defined ++ [(name, String.ofList value)])

/-- The definitions of a file, in their order. -/
def parse? (env : Environment) (text : String) : Option (List (String × String)) := do
  let lines ← logicalLines? [] .outside (physicalLines text.toList)
  lines.foldlM (addLine? env) []

end Rollout.EnvironmentFile
