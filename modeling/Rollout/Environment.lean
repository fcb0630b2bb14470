/-!
# Environments

An environment says what is known of each variable. Environments can be layered: a variable that the
upper layer defines is never looked for below, even where its value is no text.
-/

namespace Rollout

/-- What an environment knows of a variable. -/
inductive Reading
  | absent
  /-- Defined, but not as a text. -/
  | notUnicode
  | text (s : String)
  deriving DecidableEq, Repr

/-- What is known of each variable. -/
abbrev Environment : Type := String → Reading

/-- The text of a variable that has one. -/
def Reading.text? : Reading → Option String
  | text s => some s
  | _ => none

namespace Environment

/-- Nothing is defined. -/
def empty : Environment := fun _ => .absent

/-- What a list says of each variable; of several entries of a name the last one counts. -/
def ofReadings (entries : List (String × Reading)) : Environment := fun name =>
  (entries.reverse.lookup name).getD .absent

/-- The variables of a list; of several definitions of a name the last one counts. -/
def ofList (entries : List (String × String)) : Environment := fun name =>
  match entries.reverse.lookup name with
  | some value => .text value
  | none => .absent

/-- `upper` where it defines the variable, `lower` elsewhere. -/
def above (upper lower : Environment) : Environment := fun name =>
  match upper name with
  | .absent => lower name
  | reading => reading

theorem above_of_ne_absent {upper : Environment} {name : String} (lower : Environment)
    (h : upper name ≠ .absent) : upper.above lower name = upper name := by
  unfold above
  split
  · contradiction
  · rfl

theorem above_of_absent {upper : Environment} {name : String} (lower : Environment)
    (h : upper name = .absent) : upper.above lower name = lower name := by
  simp [above, h]

end Environment

end Rollout
