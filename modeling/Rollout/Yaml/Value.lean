import Rollout.Bits
import Rollout.Text.Digits
import Rollout.Yaml.Node

/-!
# Values of Yaml

What a document means: its nodes with aliases replaced by what they stand for and plain scalars
read as the null value, truth values, numbers or texts. `Node.value?` answers nothing where a
mapping has a key twice, a scalar does not fit its tag, or the document nests or repeats too much.
-/

namespace Rollout.Yaml

/-- A value. A number with a fraction is held as the bits of its 64-bit floating-point form. -/
inductive Value
  | null
  | bool (b : Bool)
  | int (n : Int)
  | real (bits : UInt64)
  | text (s : String)
  | sequence (items : List Value)
  | mapping (pairs : List (Value × Value))
  | tagged (tag : String) (content : Value)
  deriving Inhabited, Repr

/-! ### Equality -/

mutual
/-- Whether two values are equal; the order of the pairs of a mapping does not count. -/
def Value.same : Value → Value → Bool
  | .null, .null => true
  | .bool a, .bool b => a == b
  | .int a, .int b => a == b
  | .real a, .real b => a == b
  | .text a, .text b => a == b
  | .sequence as, .sequence bs => Value.sameItems as bs
  | .mapping as, .mapping bs => as.length == bs.length && Value.samePairs as bs
  | .tagged a x, .tagged b y => a == b && x.same y
  | _, _ => false

def Value.sameItems : List Value → List Value → Bool
  | [], [] => true
  | a :: as, b :: bs => a.same b && Value.sameItems as bs
  | _, _ => false

/-- Whether each of some pairs is among others. -/
def Value.samePairs : List (Value × Value) → List (Value × Value) → Bool
  | [], _ => true
  | (key, value) :: as, bs =>
    bs.any (fun (k, v) => key.same k && value.same v) && Value.samePairs as bs
end

/-- Whether a value is null, whatever its tag. -/
def Value.isNull : Value → Bool
  | .null => true
  | .tagged _ content => content.isNull
  | _ => false

/-! ### Words -/

def isNullWord (s : String) : Bool := ["null", "Null", "NULL", "~"].contains s

/-- The truth value of a word. -/
def boolWord? (s : String) : Option Bool :=
  if ["true", "True", "TRUE"].contains s then some true
  else if ["false", "False", "FALSE"].contains s then some false
  else none

/-! ### Whole numbers -/

/-- The number of digits with an optional mark of their base. -/
def magnitude? : List Char → Option Nat
  | '0' :: 'x' :: rest => Text.digitsValue? 16 rest
  | '0' :: 'o' :: rest => Text.digitsValue? 8 rest
  | '0' :: 'b' :: rest => Text.digitsValue? 2 rest
  | cs =>
    if 1 < cs.length ∧ cs.head? = some '0' then none else Text.digitsValue? 10 cs

/-- The whole number that a text spells. -/
def wholeNumber? : List Char → Option Int
  | '-' :: rest => (magnitude? rest).map fun n => -(n : Int)
  | '+' :: rest => (magnitude? rest).map fun n => (n : Int)
  | rest => (magnitude? rest).map fun n => (n : Int)

/-! ### Numbers with a fraction -/

/-- The bits of a floating-point number, with one zero. -/
def realBits (x : Float) : UInt64 := if x == 0 then 0 else x.toBits

/-- The bits of all that is not a number. -/
def notANumber : UInt64 := 0x7FF8000000000000

/-- The exponent of a decimal, behind its letter. -/
def exponent? : List Char → Option Int
  | '-' :: rest => (Text.digitsValue? 10 rest).map fun n => -(n : Int)
  | '+' :: rest => (Text.digitsValue? 10 rest).map fun n => (n : Int)
  | rest => (Text.digitsValue? 10 rest).map fun n => (n : Int)

/-- `digits · 10 ^ exponent` as a floating-point number. An exponent far out of range makes it zero
or infinite, whatever its digits. -/
def decimalFloat (negative : Bool) (digits : Nat) (places : Nat) (exponent : Int) : Float :=
  let bound : Int := places + 400
  let exponent := max (-bound) (min bound exponent)
  let x := if digits = 0 then 0 else Float.ofScientific digits (exponent < 0) exponent.natAbs
  if negative then -x else x

/-- The finite decimal that a text without sign spells. -/
def decimal? (negative : Bool) (cs : List Char) : Option Float := do
  let whole := cs.takeWhile Char.isDigit
  let rest := cs.dropWhile Char.isDigit
  let (fraction, rest) := match rest with
    | '.' :: rest => (rest.takeWhile Char.isDigit, rest.dropWhile Char.isDigit)
    | rest => ([], rest)
  let digits := whole ++ fraction
  let n ← Text.digitsValue? 10 digits
  let e ← match rest with
    | [] => some 0
    | 'e' :: rest | 'E' :: rest => exponent? rest
    | _ => none
  let x := decimalFloat negative n digits.length (e - fraction.length)
  if x.isFinite then some x else none

/-- The number that a text spells, in bits. -/
def real? (s : String) : Option UInt64 :=
  if [".inf", ".Inf", ".INF", "+.inf", "+.Inf", "+.INF"].contains s then some 0x7FF0000000000000
  else if ["-.inf", "-.Inf", "-.INF"].contains s then some 0xFFF0000000000000
  else if [".nan", ".NaN", ".NAN"].contains s then some notANumber
  else
    (match s.toList with
      | '-' :: rest => decimal? true rest
      | '+' :: rest => decimal? false rest
      | rest => decimal? false rest).map realBits

/-- Whether a text is digits that begin with a zero, which are no number. -/
def isZeroPadded (s : String) : Bool :=
  let cs := match s.toList with
    | '-' :: rest | '+' :: rest => rest
    | rest => rest
  1 < cs.length && cs.head? == some '0' && cs.all Char.isDigit

/-! ### Scalars -/

/-- A whole number as a value, where 64 bits hold it. -/
def intValue? (n : Int) : Option Value :=
  if Bits.holdsEither 64 n then some (.int n) else none

/-- Whether a whole number is one at all: of at most 128 bits. -/
def isWholeSize (n : Int) : Bool := Bits.holdsEither 128 n

/-- A plain scalar without a type. A whole number of more than 64 bits is refused, and one of more
than 128 is read with a fraction. -/
def plainValue? (s : String) : Option Value :=
  if s.isEmpty ∨ isNullWord s then some .null
  else
    match boolWord? s with
    | some b => some (.bool b)
    | none =>
      match (wholeNumber? s.toList).filter isWholeSize with
      | some n => intValue? n
      | none =>
        match if isZeroPadded s then none else real? s with
        | some bits => some (.real bits)
        | none => some (.text s)

/-- A scalar with a tag that may name its type. -/
def typedValue? (tag : Tag) (s : String) : Option Value :=
  if tag = .ofText "tag:yaml.org,2002:bool" then (boolWord? s).map .bool
  else if tag = .ofText "tag:yaml.org,2002:int" then
    ((wholeNumber? s.toList).filter isWholeSize).bind intValue?
  else if tag = .ofText "tag:yaml.org,2002:float" then (real? s).map .real
  else if tag = .ofText "tag:yaml.org,2002:null" then if isNullWord s then some .null else none
  else some (.text s)

/-- A value, in the tag of its own that its node may have. -/
def withTag (tag : Option Tag) (v : Value) : Value :=
  match tag.bind Tag.own? with
  | some name => .tagged name v
  | none => v

/-- A scalar as a value. -/
def scalarValue? (tag : Option Tag) (s : String) (plain : Bool) : Option Value :=
  match tag.filter (! ·.isOwn) with
  | some tag => typedValue? tag s
  | none => (if plain then plainValue? s else some (.text s)).map (withTag tag)

/-! ### Documents -/

/-- How deep collections may stand in one another. -/
def maxDepth : Nat := 128

/-- The node that a node stands for, counting an alias against the repetitions left. -/
def follow (anchored : List (Nat × Node Nat)) : Node Nat → StateT Nat Option (Node Nat)
  | .alias n => do
    let left ← get
    if left = 0 then failure
    else
      set (left - 1)
      (anchored.lookup n : Option _)
  | node => pure node

/-- Whether a node is an alias. -/
def Node.isAlias {α : Type} : Node α → Bool
  | .alias _ => true
  | _ => false

/-- Adds a pair to a mapping that does not have its key yet. -/
def addPair? (pairs : List (Value × Value)) (pair : Value × Value) :
    Option (List (Value × Value)) :=
  if pairs.any fun (key, _) => key.same pair.1 then none else some (pairs ++ [pair])

/-- The value of a node, with `depth` more levels of nesting allowed. In a mapping with a tag of its
own the tags of the keys say nothing, nor do those of the keys in a key; `bare` says whether a node
is such a key. Behind an alias all tags count. -/
def nodeValue? (anchored : List (Nat × Node Nat)) : (depth : Nat) → (bare : Bool) → Node Nat →
    StateT Nat Option Value
  | 0, bare, node => do
    match ← follow anchored node with
    | .scalar props text plain =>
      (scalarValue? (if bare && !node.isAlias then none else props.tag) text plain : Option _)
    | _ => failure
  | depth + 1, bare, node => do
    let tag (props : Properties Nat) := if bare && !node.isAlias then none else props.tag
    match ← follow anchored node with
    | .alias _ => failure
    | .scalar props text plain => (scalarValue? (tag props) text plain : Option _)
    | .sequence props items =>
      let items ← items.mapM (nodeValue? anchored depth false)
      pure (withTag (tag props) (.sequence items))
    | .mapping props pairs =>
      let bareKeys := (bare && !node.isAlias) || (props.tag.bind Tag.own?).isSome
      let pairs ← pairs.mapM fun (key, value) => do
        let key ← nodeValue? anchored depth bareKeys key
        let value ← nodeValue? anchored depth false value
        pure (key, value)
      let pairs ← (pairs.foldlM addPair? [] : Option _)
      pure (withTag (tag props) (.mapping pairs))

/-- The value of a document. Of two anchors with one number the later one counts, and aliases may
be followed a hundred times for each event of the document. -/
def Node.value? (root : Node String) : Option Value := do
  let (root, _) ← root.number? []
  let (value, _) ← (nodeValue? root.anchored.reverse maxDepth false root).run (100 * root.events)
  some value

end Rollout.Yaml
