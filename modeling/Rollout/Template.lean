import Rollout.Failure
import Rollout.Files

/-!
# Manifest templates

A template is a text with placeholders: a dollar sign and a name in braces. Reading it goes from left
to right and cuts the text into *segments*, placeholders and the literal texts between them; what
only looks like a placeholder stays literal. Rendering puts a value in place of every placeholder,
in one pass, or reports every name that has no value.

Main statement: a template loses nothing, its segments written one behind the other are its source
(`written_segmentsFrom`).
-/

namespace Rollout

/-- A piece of a template. -/
inductive Segment
  | literal (text : List Char)
  | placeholder (name : List Char)
  deriving DecidableEq, Repr

/-- The name of a placeholder. -/
def Segment.name? : Segment → Option String
  | literal _ => none
  | placeholder name => some (String.ofList name)

/-- A template with the name under which it is reported. -/
structure Template where
  name : String
  segments : List Segment
  deriving DecidableEq, Repr

namespace Template

/-! ### Reading -/

/-- A character that a name can begin with. -/
def startsName (c : Char) : Bool := c.isAlpha || c = '_'

/-- A character of a name. -/
def inName (c : Char) : Bool := c.isAlphanum || c = '_'

/-- The name of the placeholder at the start of the text, and the text behind it. -/
def token? : List Char → Option (List Char × List Char)
  | '$' :: '{' :: c :: rest =>
    if startsName c then
      match rest.dropWhile inName with
      | '}' :: after => some (c :: rest.takeWhile inName, after)
      | _ => none
    else none
  | _ => none

/-- A placeholder as it is written. -/
def writtenToken (name : List Char) : List Char := '$' :: '{' :: name ++ ['}']

theorem eq_of_token? {cs name after : List Char} (h : token? cs = some (name, after)) :
    cs = writtenToken name ++ after := by
  unfold token? at h
  split at h
  · rename_i c rest
    split at h
    · split at h
      · rename_i _ after' hd
        obtain ⟨rfl, rfl⟩ : c :: rest.takeWhile inName = name ∧ after' = after := by simpa using h
        have hsplit : rest.takeWhile inName ++ rest.dropWhile inName = rest :=
          List.takeWhile_append_dropWhile
        rw [hd] at hsplit
        simp [writtenToken, hsplit]
      · simp at h
    · simp at h
  · simp at h

theorem length_lt_of_token? {cs name after : List Char} (h : token? cs = some (name, after)) :
    after.length < cs.length := by
  rw [eq_of_token? h]
  simp [writtenToken]
  omega

/-- A literal of the reversed characters, unless there are none. -/
def closeLiteral (reversed : List Char) : List Segment :=
  if reversed.isEmpty then [] else [.literal reversed.reverse]

/-- Cuts a text; `reversed` holds the literal that is being read. -/
def segmentsFrom (reversed : List Char) (cs : List Char) : List Segment :=
  match _h : token? cs with
  | some (name, after) => closeLiteral reversed ++ .placeholder name :: segmentsFrom [] after
  | none =>
    match cs with
    | [] => closeLiteral reversed
    | c :: rest => segmentsFrom (c :: reversed) rest
termination_by cs.length
decreasing_by
  · exact length_lt_of_token? _h
  · simp

/-- The template that a text spells. -/
def parse (name source : String) : Template := ⟨name, segmentsFrom [] source.toList⟩

/-- Reads the template in a file. -/
def ofFile (files : Files) (path : String) : Except Failure Template :=
  match files.read? path with
  | some source => .ok (parse path source)
  | none =>
    .error ((Failure.template FailureCode.unreadableTemplate ("Cannot read template " ++ path))
      |>.withCauses ["no such file, or not a text"])

/-! ### Writing -/

/-- A segment as it is written. -/
def writtenSegment : Segment → List Char
  | .literal text => text
  | .placeholder name => writtenToken name

/-- Segments as they are written. -/
def written (segments : List Segment) : List Char := segments.flatMap writtenSegment

theorem written_closeLiteral (reversed : List Char) :
    written (closeLiteral reversed) = reversed.reverse := by
  cases reversed <;> simp [closeLiteral, written, writtenSegment]

/-- Reading loses nothing. -/
theorem written_segmentsFrom (reversed cs : List Char) :
    written (segmentsFrom reversed cs) = reversed.reverse ++ cs := by
  fun_induction segmentsFrom reversed cs with
  | case1 reversed cs name after h ih =>
    have hw := written_closeLiteral reversed
    simp only [written] at hw ih
    simp [written, hw, ih, writtenSegment, eq_of_token? h]
  | case2 reversed h => simp [written_closeLiteral]
  | case3 reversed c rest h ih => simp [ih]

/-! ### Rendering -/

/-- The distinct names of the placeholders, in the order in which they first occur. -/
def placeholders (t : Template) : List String :=
  (t.segments.filterMap Segment.name?).foldl
    (fun names name => if names.contains name then names else names ++ [name]) []

/-- The names of placeholders that have no value. -/
def missing (t : Template) (values : List (String × String)) : List String :=
  t.placeholders.filter fun name => (values.lookup name).isNone

/-- A segment with its value. -/
def fill (values : List (String × String)) : Segment → List Char
  | .literal text => text
  | .placeholder name => ((values.lookup (String.ofList name)).getD "").toList

/-- The template with a value in place of each placeholder. -/
def render (t : Template) (values : List (String × String)) : Except Failure String :=
  match t.missing values with
  | [] => .ok (String.ofList (t.segments.flatMap (fill values)))
  | names => .error (.unresolved t.name names)

end Template

end Rollout
