/-!
# Toml values

The data model of Toml. Numbers with a fraction and dates are held as they are written: nothing
computes with them. The form of a number is a matter of the document, and its size one of whoever
looks at it, so a number that no size holds is a value too, but one that cannot be read.
-/

namespace Rollout

/-- A Toml value. -/
inductive Toml
  | text (s : String)
  | int (n : Int)
  | real (written : String)
  /-- A number that is well formed, but whose digits or size leave it without a value. -/
  | unreadable (written : String)
  | bool (b : Bool)
  | date (written : String)
  | list (items : List Toml)
  | table (fields : List (String × Toml))
  deriving Inhabited, Repr

namespace Toml

/-- The value of a field of a table. -/
def field? (name : String) : Toml → Option Toml
  | table fields => fields.lookup name
  | _ => none

mutual
/-- Whether all numbers in a value can be read. -/
def isReadable : Toml → Bool
  | unreadable _ => false
  | list items => areReadable items
  | table fields => areReadableFields fields
  | _ => true

def areReadable : List Toml → Bool
  | [] => true
  | v :: items => v.isReadable && areReadable items

def areReadableFields : List (String × Toml) → Bool
  | [] => true
  | (_, v) :: fields => v.isReadable && areReadableFields fields
end

/-! ### Equality -/

mutual
/-- Whether two values are the same. -/
def same : Toml → Toml → Bool
  | text s, text t | real s, real t | unreadable s, unreadable t | date s, date t => s == t
  | int m, int n => m == n
  | bool a, bool b => a == b
  | list items, list items' => sameItems items items'
  | table fields, table fields' => sameFields fields fields'
  | _, _ => false

def sameItems : List Toml → List Toml → Bool
  | [], [] => true
  | v :: items, v' :: items' => v.same v' && sameItems items items'
  | _, _ => false

def sameFields : List (String × Toml) → List (String × Toml) → Bool
  | [], [] => true
  | (name, v) :: fields, (name', v') :: fields' =>
    name == name' && v.same v' && sameFields fields fields'
  | _, _ => false
end

mutual
theorem same_iff : ∀ v w : Toml, v.same w = true ↔ v = w
  | text _, w | int _, w | real _, w | unreadable _, w | bool _, w | date _, w => by
    cases w <;> simp [same]
  | list items, w => by
    cases w with
    | list items' => simp [same, sameItems_iff items items']
    | _ => simp [same]
  | table fields, w => by
    cases w with
    | table fields' => simp [same, sameFields_iff fields fields']
    | _ => simp [same]

theorem sameItems_iff : ∀ items items' : List Toml, sameItems items items' = true ↔ items = items'
  | [], items' => by cases items' <;> simp [sameItems]
  | v :: items, items' => by
    cases items' with
    | nil => simp [sameItems]
    | cons v' items' => simp [sameItems, same_iff v v', sameItems_iff items items']

theorem sameFields_iff :
    ∀ fields fields' : List (String × Toml), sameFields fields fields' = true ↔ fields = fields'
  | [], fields' => by cases fields' <;> simp [sameFields]
  | (name, v) :: fields, fields' => by
    cases fields' with
    | nil => simp [sameFields]
    | cons field' fields' =>
      simp [sameFields, same_iff v field'.2, sameFields_iff fields fields', Prod.ext_iff]
end

instance : DecidableEq Toml := fun v w => decidable_of_iff _ (same_iff v w)

end Toml

end Rollout
