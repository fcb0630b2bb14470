import Rollout.Json.Shape
import Rollout.Proofs.JsonText

/-!
# Reading what was printed along a shape

A reader who asks for some fields of an object finds them as they were printed, provided that the
object has no others: then nothing is passed over, and what is read is the whole
(`Rollout.Json.Fits`). The main statement is `Rollout.Json.shaped?_pretty`.

Only where a shape asks for all of a value is the plain reader called, and there it may nest as deep
as it does when it reads nothing else.
-/

namespace Rollout.Json

/-- **A value fits a shape**: its objects have no fields but those that the shape asks for, and what
is asked for as a whole can be read again. -/
inductive Fits : Shape → Json → Prop
  | whole {j : Json} (h : Plain maxDepth j) : Fits .whole j
  | each {item : Shape} {items : List Json} (h : ∀ j ∈ items, Fits item j) :
      Fits (.each item) (list items)
  | record {shapes : List (String × Shape)} {fields : List (String × Json)}
      (hknown : ∀ field ∈ fields, (shapes.lookup field.1).isSome)
      (h : ∀ field ∈ fields, ∀ shape, shapes.lookup field.1 = some shape → Fits shape field.2) :
      Fits (.record shapes) (object fields)

/-- The reader of values along a shape. -/
def along (shape : Shape) : Reader Json := fun fuel cs j rest =>
  shapedValue? fuel shape cs = some (j, rest)

/-- The reader of fields each along its own of some shapes. -/
def fieldsAlong (shapes : List (String × Shape)) : Reader (String × Json) :=
  fun fuel cs field rest => ∃ shape, shapes.lookup field.1 = some shape ∧
    (along shape).field fuel cs field rest

variable {shape : Shape} {chars : List Char} {j : Json}

theorem along_blank (fuel : Nat) (cs rest : List Char) (h : along shape (fuel + 1) cs j rest) :
    along shape (fuel + 1) (' ' :: cs) j rest := by
  unfold along shapedValue? at h ⊢
  rwa [skipSpace_blank]

/-- **What is asked for as a whole** is read by the plain reader. -/
theorem along_whole (h : (values maxDepth).Takes ']' chars j) :
    (along .whole).Takes ']' chars j := by
  have hvalue := h.reads
  obtain ⟨c, more, rfl, hspace, hclose⟩ := h.begins
  refine .of_cons hspace hclose fun fuel rest _ hrest => ?_
  -- the plain reader brings its own fuel, so none of what is left is handed on to it
  have hplain : shapedValue? (fuel + 1) .whole (c :: (more ++ rest)) =
      (value (2 * (c :: (more ++ rest)).length + 2) maxDepth (c :: (more ++ rest))).toOption := by
    rw [shapedValue?, skipSpace_cons hspace] <;> exact nofun
  have hread := hvalue (2 * (c :: (more ++ rest)).length + 2) rest
    (by rw [List.length_cons, List.length_cons, List.length_append]; omega) hrest
  rw [values, List.cons_append] at hread
  rw [along, hplain, hread]
  rfl

theorem isLoop_shapedItems? (item : Shape) :
    (along item).IsLoop ']' .endInList .expectedCommaOrBracket fun fuel first cs js rest =>
      shapedItems? fuel first [] item cs = some (js, rest) where
  ends h := by simp [shapedItems?, h]
  goesOn h hvalue hitems := by
    rw [along] at hvalue
    simp [shapedItems?, h, hvalue, hitems]

theorem isLoop_shapedFields? (shapes : List (String × Shape)) :
    (fieldsAlong shapes).IsLoop '}' .endInObject .expectedCommaOrBrace fun fuel first cs fs rest =>
      shapedFields? fuel first shapes cs = some (fs, rest) where
  ends h := by simp [shapedFields?, h]
  goesOn h hfield hfields := by
    obtain ⟨shape, hshape, behind, hname, hvalue⟩ := hfield
    rw [along] at hvalue
    simp [shapedFields?, h, hname, Except.toOption, hshape, hvalue, hfields]

/-- **A value that fits a shape is read again along it**, however far in it stands. -/
theorem Fits.takes (h : Fits shape j) (level : Nat) :
    (along shape).Takes ']' (prettyChars level j) j := by
  induction h generalizing level with
  | whole h => exact along_whole (h.takes level)
  | @each item _ _ ih =>
    rw [prettyChars_list]
    refine .of_cons rfl (by decide) fun fuel rest hfuel _ => ?_
    have hitems := (isLoop_shapedItems? item).block rfl (by decide)
      (fun j hj => ih j hj (level + 1)) hfuel rest
    simp [along, shapedValue?, skipSpace, isSpace, hitems]
  | @record shapes _ hknown _ ih =>
    rw [prettyChars_object]
    refine .of_cons rfl (by decide) fun fuel rest hfuel _ => ?_
    have hfields := (isLoop_shapedFields? shapes).block rfl (by decide) (fun field hfield => ?_)
      hfuel rest
    · simp [along, shapedValue?, skipSpace, isSpace, hfields]
    · obtain ⟨shape, hshape⟩ := Option.isSome_iff_exists.mp (hknown field hfield)
      have htakes := (ih field hfield shape hshape (level + 1)).field along_blank
      exact ⟨htakes.begins, fun fuel rest hfuel hrest =>
        ⟨shape, hshape, htakes.reads fuel rest hfuel hrest⟩⟩

/-- **What was printed is read along its shape as what it was printed from.** -/
theorem shaped?_pretty (h : Fits shape j) : shaped? shape j.pretty = some j := by
  have hreads := (h.takes 0).reads (2 * (j.prettyChars 0).length + 2) [] (by omega) nofun
  rw [List.append_nil, along] at hreads
  rw [shaped?, pretty, String.toList_ofList, hreads]
  rfl

end Rollout.Json
