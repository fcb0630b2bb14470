import Rollout.Host.Shell.Step
import Rollout.Host.Shell.State

/-!
# Words and the texts they stand for

A word stands for texts: the values of its variables are put in, and outside quotes they are cut at
their blanks. A word that is nothing but a variable without text stands for no text at all.
-/

namespace Rollout.Host.Shell

/-- Whether a character separates the fields of a value. -/
def separates (c : Char) : Bool := c = ' ' || c = '\t' || c = '\n'

/-- The fields of a value that is cut at its blanks. -/
def fieldsOf (cs : List Char) : List (List Char) :=
  (cs.splitBy fun a b => separates a == separates b).filter fun field => !field.all separates

/-- The fields read so far: complete ones, and the one that is being read, if one is. -/
structure Fields where
  complete : List (List Char)
  current : Option (List Char)

namespace Fields

/-- Adds to the field that is being read. -/
def add (f : Fields) (cs : List Char) : Fields :=
  { f with current := some (f.current.getD [] ++ cs) }

/-- Ends the field that is being read. -/
def cut (f : Fields) : Fields := ⟨f.complete ++ f.current.toList, none⟩

/-- Adds a value that is cut at its blanks. -/
def addValue (f : Fields) (cs : List Char) : Fields :=
  let f := if cs.head?.any separates then f.cut else f
  let f := (fieldsOf cs).foldl (fun (f, first) field =>
    ((if first then f else f.cut).add field, false)) (f, true) |>.1
  if cs.getLast?.any separates then f.cut else f

/-- Adds texts that are fields of their own. -/
def addEach (f : Fields) : List String → Fields
  | [] => f
  | [arg] => f.add arg.toList
  | arg :: rest => addEach (f.add arg.toList).cut rest

end Fields

/-- The text that a variable stands for. -/
def Variable.text (s : State) (v : Variable) : List Char :=
  let value := (s.value v.name).toList
  match v.substitute with
  | none => value
  | some substitute =>
    let isThere := s.has v.name && !(substitute.needsText && value.isEmpty)
    match substitute.forPresent, isThere with
    | true, true | false, false => substitute.text
    | true, false => []
    | false, true => value

/-- Adds a part of a word. In quotes the arguments of the script stay fields of their own. -/
def addPart (s : State) (f : Fields) : Part → Fields
  | .text cs => f.add cs
  | .variable ⟨"@", none⟩ true => f.addEach s.arguments.tail
  | .variable v true => f.add (v.text s)
  | .variable v false => f.addValue (v.text s)

/-- The texts that a word stands for. -/
def expand (s : State) (w : Word) : List String :=
  ((w.foldl (addPart s) ⟨[], none⟩).cut.complete).map String.ofList

/-- The one text that a word stands for. -/
def expandWhole (s : State) (w : Word) : String :=
  String.ofList (w.flatMap fun
    | .text cs => cs
    | .variable v _ => v.text s)

/-- The name and the value of a word that sets a variable. -/
def assignment? (w : Word) : Option (String × Word) :=
  let chars := w.takeWhile fun part => match part with | .text _ => true | .variable .. => false
  let texts := chars.map fun part => match part with | .text cs => cs | .variable .. => []
  match texts.findIdx? fun cs => cs.contains '=' with
  | none => none
  | some n =>
    let name := (texts.take n).flatten
    match name, texts[n]? with
    | c :: cs, some ['='] =>
      if startsName c && cs.all inName then some (String.ofList name, w.drop (n + 1)) else none
    | _, _ => none

end Rollout.Host.Shell
