import Rollout.Json.Parser

/-!
# Json of which only a part is asked for

A reader who knows the fields of an object has no use for the others. `Json.shaped?` reads a text
along a shape that says which fields are looked at: those are read in full, and what stands under
any other name is passed over. What is passed over has to have the form of Json, but its numbers may
be of any size, its texts may hold halves of characters and it may nest as deep as it likes.
-/

namespace Rollout.Json

/-! ### Passing over values -/

/-- Passes at least one digit. -/
def skipDigits? (cs : List Char) : Option (List Char) :=
  if cs.head?.any Char.isDigit then some (cs.dropWhile Char.isDigit) else none

/-- Passes the whole part of a number, which has no leading zero. -/
def skipWhole? : List Char → Option (List Char)
  | '0' :: rest => if rest.head?.any Char.isDigit then none else some rest
  | cs => skipDigits? cs

/-- Passes a fraction if one follows. -/
def skipFraction? : List Char → Option (List Char)
  | '.' :: rest => skipDigits? rest
  | cs => some cs

/-- Passes an exponent if one follows. -/
def skipExponent? : List Char → Option (List Char)
  | 'e' :: rest | 'E' :: rest =>
    skipDigits? (match rest with
      | '+' :: digits | '-' :: digits => digits
      | digits => digits)
  | cs => some cs

/-- Passes a number behind its sign. -/
def skipNumber? (cs : List Char) : Option (List Char) :=
  ((skipWhole? cs).bind skipFraction?).bind skipExponent?

/-- Passes a text behind its opening quote. -/
def skipText? : List Char → Option (List Char)
  | [] => none
  | '\x22' :: rest => some rest
  | '\\' :: 'u' :: a :: b :: c :: d :: rest =>
    if [a, b, c, d].all (Text.isDigitOf 16) then skipText? rest else none
  | '\\' :: c :: rest =>
    if ['\x22', '\\', '/', 'b', 'f', 'n', 'r', 't'].contains c then skipText? rest else none
  | c :: rest => if c.toNat < 32 then none else skipText? rest

/-- Passes a value that is neither a list nor an object. -/
def skipScalar? : List Char → Option (List Char)
  | 'n' :: rest => (word ['u', 'l', 'l'] rest).toOption
  | 't' :: rest => (word ['r', 'u', 'e'] rest).toOption
  | 'f' :: rest => (word ['a', 'l', 's', 'e'] rest).toOption
  | '\x22' :: rest => skipText? rest
  | '-' :: rest => skipNumber? rest
  | cs => skipNumber? cs

/-- Passes the name of a field and the colon behind it. -/
def skipName? (cs : List Char) : Option (List Char) :=
  match cs with
  | '\x22' :: rest =>
    match (skipText? rest).map skipSpace with
    | some (':' :: rest) => some rest
    | _ => none
  | _ => none

mutual
/-- Passes a value and what follows it up to the last of the brackets `closing`, innermost first,
which close the lists and objects around it. -/
def skipValue? : (fuel : Nat) → (closing : List Char) → List Char → Option (List Char)
  | 0, _, _ => none
  | fuel + 1, closing, cs =>
    match skipSpace cs with
    | '[' :: rest => skipFirst? fuel (']' :: closing) rest
    | '{' :: rest => skipFirst? fuel ('}' :: closing) rest
    | cs => (skipScalar? cs).bind (skipNext? fuel closing)

/-- Passes on from behind an opening bracket. -/
def skipFirst? : (fuel : Nat) → (closing : List Char) → List Char → Option (List Char)
  | 0, _, _ | _, [], _ => none
  | fuel + 1, close :: outer, cs =>
    match skipSpace cs with
    | [] => none
    | c :: rest =>
      if c = close then skipNext? fuel outer rest else skipItem? fuel (close :: outer) (c :: rest)

/-- Passes on from where an item of a list begins, or a field of an object with its name. -/
def skipItem? : (fuel : Nat) → (closing : List Char) → List Char → Option (List Char)
  | 0, _, _ => none
  | fuel + 1, closing, cs =>
    if closing.head? = some '}' then (skipName? cs).bind (skipValue? fuel closing)
    else skipValue? fuel closing cs

/-- Passes on from behind a value. -/
def skipNext? : (fuel : Nat) → (closing : List Char) → List Char → Option (List Char)
  | 0, _, _ => none
  | _ + 1, [], cs => some cs
  | fuel + 1, close :: outer, cs =>
    match skipSpace cs with
    | [] => none
    | c :: rest =>
      if c = close then skipNext? fuel outer rest
      else if c = ',' then skipItem? fuel (close :: outer) (skipSpace rest)
      else none
end

/-- Passes a value. Of three calls one reads a character, but for those around the whole. -/
def skip? (cs : List Char) : Option (List Char) := skipValue? (3 * cs.length + 3) [] cs

/-! ### Reading along a shape -/

/-- What is asked of a value. -/
inductive Shape
  /-- All that it holds. -/
  | whole
  /-- The same of each item of a list. -/
  | each (item : Shape)
  /-- The given fields of an object, or the items of a list in their order. -/
  | record (fields : List (String × Shape))

mutual
/-- Reads a value as far as its shape asks for it. -/
def shapedValue? : (fuel : Nat) → Shape → List Char → Option (Json × List Char)
  | 0, _, _ => none
  | fuel + 1, shape, cs =>
    match shape, skipSpace cs with
    | .each item, '[' :: rest =>
      (shapedItems? fuel true [] item rest).map fun (js, rest) => (.list js, rest)
    | .record fields, '[' :: rest =>
      (shapedItems? fuel true (fields.map Prod.snd) .whole rest).map fun (js, rest) =>
        (.list js, rest)
    | .record fields, '{' :: rest =>
      (shapedFields? fuel true fields rest).map fun (fs, rest) => (.object fs, rest)
    | _, cs => (value (2 * cs.length + 2) maxDepth cs).toOption

/-- Reads the items of a list up to its end, the first ones along `shapes`, the others along
`more`. -/
def shapedItems? : (fuel : Nat) → (first : Bool) → (shapes : List Shape) → (more : Shape) →
    List Char → Option (List Json × List Char)
  | 0, _, _, _, _ => none
  | fuel + 1, first, shapes, more, cs =>
    match nextItem first ']' .endInList .expectedCommaOrBracket cs with
    | .error _ => none
    | .ok (false, rest) => some ([], rest)
    | .ok (true, rest) => do
      let (j, rest) ← shapedValue? fuel (shapes.headD more) rest
      let (js, rest) ← shapedItems? fuel false shapes.tail more rest
      some (j :: js, rest)

/-- Reads the fields of an object that are asked for, up to its end. -/
def shapedFields? : (fuel : Nat) → (first : Bool) → (shapes : List (String × Shape)) →
    List Char → Option (List (String × Json) × List Char)
  | 0, _, _, _ => none
  | fuel + 1, first, shapes, cs =>
    match nextItem first '}' .endInObject .expectedCommaOrBrace cs with
    | .error _ => none
    | .ok (false, rest) => some ([], rest)
    | .ok (true, rest) => do
      let (name, rest) ← (fieldName rest).toOption
      match shapes.lookup name with
      | none => shapedFields? fuel false shapes (← skip? rest)
      | some shape =>
        let (j, rest) ← shapedValue? fuel shape rest
        let (fs, rest) ← shapedFields? fuel false shapes rest
        some ((name, j) :: fs, rest)
end

/-- The value that a text spells, without the fields for which its shape does not ask. -/
def shaped? (shape : Shape) (s : String) : Option Json :=
  let cs := s.toList
  match shapedValue? (2 * cs.length + 2) shape cs with
  | some (j, rest) => if (skipSpace rest).isEmpty then some j else none
  | none => none

end Rollout.Json
