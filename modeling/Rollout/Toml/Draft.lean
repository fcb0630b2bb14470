import Rollout.Toml

/-!
# Tables while they are written

A document names its tables piece by piece: by a header, by being on the way to a table of a longer
header, or by a dotted key. What has been named in one way may not always be extended in another,
so each table remembers its origin until the document is complete.
-/

namespace Rollout.Toml

/-- How a table came to be. -/
inductive Origin
  /-- It has a header of its own, or is the document. -/
  | header
  /-- It lies on the way to a table that has a header. -/
  | passing
  /-- It was named by a dotted key. -/
  | dotted
  deriving DecidableEq, Repr

/-- A value while the document is being read. -/
inductive Draft
  /-- A value written in place, which cannot be extended. -/
  | done (value : Toml)
  | table (origin : Origin) (fields : List (String × Draft))
  /-- The tables of a repeated header, last first. -/
  | rows (last : List (String × Draft)) (before : List (List (String × Draft)))

/-- The fields of a table that is being written. -/
abbrev Fields : Type := List (String × Draft)

namespace Fields

/-- Gives a field its value, in its old place if there is one. -/
def set (fields : Fields) (key : String) (value : Draft) : Fields :=
  match fields with
  | [] => [(key, value)]
  | (k, v) :: rest => if k = key then (k, value) :: rest else (k, v) :: set rest key value

/-- Adds a field that is not there yet. -/
def add? (fields : Fields) (key : String) (value : Draft) : Option Fields :=
  if (fields.lookup key).isSome then none else some (fields ++ [(key, value)])

/-- Changes the table at the end of a path by `change`, making the tables on the way. A dotted key
cannot pass a table that has a header. -/
def descend (dotted : Bool) (change : Origin → Fields → Option Fields) :
    (path : List String) → Origin → Fields → Option Fields
  | [], origin, fields => change origin fields
  | key :: path, _, fields =>
    match fields.lookup key with
    | none => do
      let origin := if dotted then Origin.dotted else .passing
      let inner ← descend dotted change path origin []
      some (fields ++ [(key, .table origin inner)])
    | some (.done _) => none
    | some (.rows last before) => do
      let last ← descend dotted change path .header last
      some (fields.set key (.rows last before))
    | some (.table origin inner) =>
      if dotted ∧ origin = .header then none
      else do
        let inner ← descend dotted change path origin inner
        some (fields.set key (.table origin inner))

/-- Changes the table of a header that has been read. -/
def within (change : Fields → Option Fields) : (path : List String) → Fields → Option Fields
  | [], fields => change fields
  | key :: path, fields =>
    match fields.lookup key with
    | some (.table origin inner) => do
      let inner ← within change path inner
      some (fields.set key (.table origin inner))
    | some (.rows last before) => do
      let last ← within change path last
      some (fields.set key (.rows last before))
    | _ => none

/-- Adds a value under a key that may be dotted. The parts of a dotted key before the last name
tables that only dotted keys have named. -/
def addPair? (fields : Fields) (path : List String) (key : String) (value : Toml) : Option Fields :=
  descend true (fun origin fields =>
    if (origin == .dotted) == path.isEmpty then none else fields.add? key (.done value))
    path .header fields

/-- Opens the table of a header, which may have been passed before but not opened. -/
def openTable? (fields : Fields) (path : List String) (key : String) : Option Fields :=
  descend false (fun _ fields =>
    match fields.lookup key with
    | none => some (fields ++ [(key, .table .header [])])
    | some (.table .passing inner) => some (fields.set key (.table .header inner))
    | some _ => none) path .header fields

/-- Opens one more table of a repeated header. -/
def openRow? (fields : Fields) (path : List String) (key : String) : Option Fields :=
  descend false (fun _ fields =>
    match fields.lookup key with
    | none => some (fields ++ [(key, .rows [] [])])
    | some (.rows last before) => some (fields.set key (.rows [] (last :: before)))
    | some _ => none) path .header fields

end Fields

mutual
/-- A draft as a value. -/
def Draft.value : Draft → Toml
  | .done v => v
  | .table _ fields => .table (Draft.valueFields fields)
  | .rows last before => .list (Draft.valueRows before [.table (Draft.valueFields last)])

def Draft.valueFields : List (String × Draft) → List (String × Toml)
  | [] => []
  | (key, d) :: rest => (key, d.value) :: Draft.valueFields rest

def Draft.valueRows : List (List (String × Draft)) → List Toml → List Toml
  | [], later => later
  | row :: before, later => Draft.valueRows before (.table (Draft.valueFields row) :: later)
end

end Rollout.Toml
