import Rollout.Json
import Rollout.Readiness.Condition

/-!
# Conditions from Json

A condition is an object of its fields, or a list of their values in order, in which the last ones
may be missing. Kind and name have to be there, and other names than those of the fields say nothing.
-/

namespace Rollout.Condition

/-- The fields of a condition, in order. -/
def fieldNames : List String := ["kind", "name", "namespace", "predicate", "timeout"]

/-- The value of each field that is there. -/
def fields? : Json → Option (List (String × Json))
  | .object fields => some fields.reverse
  | .list items => if items.length ≤ fieldNames.length then some (fieldNames.zip items) else none
  | _ => none

/-- A duration in words. -/
def duration? (j : Json) : Option Duration := j.text?.bind Duration.parse?

/-- A field, or its default. -/
def fieldOr? {α : Type} (fields : List (String × Json)) (name : String) (read : Json → Option α)
    (default : α) : Option α :=
  match fields.lookup name with
  | some j => read j
  | none => some default

/-- The condition that a value describes. -/
def ofJson? (j : Json) : Option Condition := do
  let fields ← fields? j
  let kind ← (fields.lookup "kind").bind (Json.choice? ResourceKind.ofName?)
  let name ← (fields.lookup "name").bind Json.text?
  let space ← fieldOr? fields "namespace" Json.text? defaultNamespace
  let predicate ← fieldOr? fields "predicate" (Json.choice? Predicate.ofName?) .available
  let timeout ← fieldOr? fields "timeout" duration? defaultTimeout
  return { kind, name, space, predicate, timeout }

end Rollout.Condition
