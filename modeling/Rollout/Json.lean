import Rollout.Bits

/-!
# Json values

The data model of Json: a number is a whole number that 64 bits hold, or a decimal. An object keeps
its fields as they were written; where a name occurs twice, the last one counts.
-/

namespace Rollout

/-- A Json value. -/
inductive Json
  | null
  | bool (b : Bool)
  /-- A whole number. -/
  | int (n : Int)
  /-- `digits · 10 ^ exponent`, with a sign that zero may carry too. -/
  | real (negative : Bool) (digits : Nat) (exponent : Int)
  | text (s : String)
  | list (items : List Json)
  | object (fields : List (String × Json))
  deriving Inhabited, Repr, BEq

namespace Json

/-- The field of a name; of several the last. -/
def field? (name : String) : Json → Option Json
  | object fields => fields.reverse.lookup name
  | _ => none

/-- The value behind a chain of field names. -/
def path? : List String → Json → Option Json
  | [], j => some j
  | name :: names, j => (j.field? name).bind (path? names)

/-- A text value. -/
def text? : Json → Option String
  | text s => some s
  | _ => none

/-- The items of a list. -/
def items? : Json → Option (List Json)
  | list items => some items
  | _ => none

/-- A whole number, where 64 bits with a sign hold it. -/
def int64? : Json → Option Int
  | int n => if Bits.holdsSigned 64 n then some n else none
  | _ => none

/-- One of some names, which may stand alone or in front of null. -/
def choice? {α : Type} (ofName? : String → Option α) : Json → Option α
  | text name => ofName? name
  | object [(name, null)] => ofName? name
  | _ => none

/-- An object without the fields that have no value. -/
def compact (fields : List (String × Option Json)) : Json :=
  object (fields.filterMap fun (name, value) => value.map fun v => (name, v))

/-- A list of texts. -/
def texts (items : List String) : Json := list (items.map text)

/-- A text, or null where there is none. -/
def ofText? : Option String → Json
  | some s => text s
  | none => null

@[simp] theorem path?_nil (j : Json) : j.path? [] = some j := rfl

theorem path?_cons (name : String) (names : List String) (j : Json) :
    j.path? (name :: names) = (j.field? name).bind (path? names) := rfl

end Json

end Rollout
