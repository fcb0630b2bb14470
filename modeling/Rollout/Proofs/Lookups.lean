import Mathlib.Data.List.Nodup
import Rollout.Proofs.Numerals
import Rollout.Json

/-!
# What stands in an object

An object of Json is a list of fields, and where several have one name the last one counts. This file
says what a value *has*, by name (`Rollout.Json.Has`) and behind a path of names
(`Rollout.Json.At`), without the functions that look it up, and what a number is taken for that may
not be there (`Rollout.Json.CountsAs`). The functions find exactly what is there:
`Rollout.Json.has_iff`, `Rollout.Json.at_iff` and `Rollout.Json.countsAs_iff`.

An object that is written from fields of which some have no value has those that have one
(`Rollout.Json.has_compact`).
-/

namespace Rollout.Json

/-- **An object has a field**: the last of those with its name has the value. -/
inductive Has (name : String) (value : Json) : Json → Prop
  | intro {before after : List (String × Json)} (h : ∀ field ∈ after, field.1 ≠ name) :
      Has name value (object (before ++ (name, value) :: after))

/-- **What stands behind a path of names.** -/
inductive At (value : Json) : List String → Json → Prop
  | here : At value [] value
  | under {name : String} {names : List String} {inner outer : Json} (h : Has name inner outer)
      (hinner : At value names inner) : At value (name :: names) outer

/-- **What the number behind a path counts as**: what it is, if it is a whole number of 64 bits with a
sign, and else what is given for its absence. -/
inductive CountsAs (path : List String) (absent : Int) (object : Json) : Int → Prop
  | there {n : Int} (h : At (int n) path object) (hlow : -2 ^ 63 ≤ n) (hhigh : n < 2 ^ 63) :
      CountsAs path absent object n
  | absent (h : ∀ n, At (int n) path object → n < -2 ^ 63 ∨ 2 ^ 63 ≤ n) :
      CountsAs path absent object absent

variable {name : String} {value j : Json} {path : List String} {absent n : Int}

/-- **A field is found exactly if the object has it.** -/
theorem has_iff : Has name value j ↔ j.field? name = some value := by
  constructor
  · rintro ⟨hlast⟩
    rename_i before after
    refine List.lookup_eq_some_iff.mpr ⟨after.reverse, before.reverse, by simp, fun field hfield => ?_⟩
    exact bne_iff_ne.mpr (hlast field (List.mem_reverse.mp hfield)).symm
  · intro h
    cases j with
    | object fields =>
      obtain ⟨after, before, hsplit, hlast⟩ := List.lookup_eq_some_iff.mp h
      have hfields : fields = before.reverse ++ (name, value) :: after.reverse := by
        rw [← List.reverse_reverse fields, hsplit]
        simp
      rw [hfields]
      refine .intro fun field hfield => ?_
      exact (bne_iff_ne.mp (hlast field (List.mem_reverse.mp hfield))).symm
    | _ => cases h

/-- **A value is found behind a path exactly if it stands there.** -/
theorem at_iff : At value path j ↔ j.path? path = some value := by
  induction path generalizing j with
  | nil =>
    constructor
    · rintro ⟨⟩
      rfl
    · rintro ⟨⟩
      exact .here
  | cons name names ih =>
    rw [path?_cons, Option.bind_eq_some_iff]
    constructor
    · rintro ⟨⟩
      rename_i inner hinner hhas
      exact ⟨inner, has_iff.mp hhas, ih.mp hinner⟩
    · rintro ⟨inner, hfield, hpath⟩
      exact .under (has_iff.mpr hfield) (ih.mpr hpath)

/-- A whole number is read where it is one of 64 bits with a sign. -/
theorem int64?_eq_some_iff : j.int64? = some n ↔ j = int n ∧ -2 ^ 63 ≤ n ∧ n < 2 ^ 63 := by
  cases j with
  | int m =>
    rw [int64?]
    split
    · rename_i hheld
      have hbounds := Bits.holdsSigned_iff.mp hheld
      constructor
      · rintro ⟨⟩
        exact ⟨rfl, hbounds⟩
      · rintro ⟨⟨⟩, -⟩
        rfl
    · rename_i hheld
      refine ⟨nofun, ?_⟩
      rintro ⟨⟨⟩, hbounds⟩
      exact absurd (Bits.holdsSigned_iff.mpr hbounds) hheld
  | _ => simp [int64?]

/-- A whole number is read behind a path where one is there. -/
theorem path?_bind_int64?_eq_some_iff :
    (j.path? path).bind int64? = some n ↔ At (int n) path j ∧ -2 ^ 63 ≤ n ∧ n < 2 ^ 63 := by
  rw [Option.bind_eq_some_iff]
  constructor
  · rintro ⟨value, hvalue, hread⟩
    obtain ⟨rfl, hbounds⟩ := int64?_eq_some_iff.mp hread
    exact ⟨at_iff.mpr hvalue, hbounds⟩
  · rintro ⟨hat, hbounds⟩
    exact ⟨_, at_iff.mp hat, int64?_eq_some_iff.mpr ⟨rfl, hbounds⟩⟩

/-- **A number is taken for what it counts as.** -/
theorem countsAs_iff :
    CountsAs path absent j n ↔ ((j.path? path).bind int64?).getD absent = n := by
  cases hfound : (j.path? path).bind int64? with
  | some m =>
    obtain ⟨hat, hlow, hhigh⟩ := path?_bind_int64?_eq_some_iff.mp hfound
    rw [Option.getD_some]
    constructor
    · rintro (⟨hat', -, -⟩ | hnone)
      · exact int.inj (Option.some.inj ((at_iff.mp hat).symm.trans (at_iff.mp hat')))
      · rcases hnone m hat with h | h <;> omega
    · rintro rfl
      exact .there hat hlow hhigh
  | none =>
    -- whatever is behind the path, it is no number of 64 bits
    have hnone (m : Int) (hat : At (int m) path j) : m < -2 ^ 63 ∨ 2 ^ 63 ≤ m := by
      by_contra hheld
      have hfound' := path?_bind_int64?_eq_some_iff.mpr ⟨hat, by omega, by omega⟩
      rw [hfound] at hfound'
      cases hfound'
    rw [Option.getD_none]
    constructor
    · rintro (⟨hat, hlow, hhigh⟩ | -)
      · rcases hnone n hat with h | h <;> omega
      · rfl
    · rintro rfl
      exact .absent hnone

/-! ### Fields that may have no value -/

/-- The fields of an object that have a value. -/
def present (fields : List (String × Option Json)) : List (String × Json) :=
  fields.filterMap fun (name, value) => value.map fun v => (name, v)

variable {fields : List (String × Option Json)}

theorem mem_present {field : String × Json} :
    field ∈ present fields ↔ (field.1, some field.2) ∈ fields := by
  rw [present, List.mem_filterMap]
  constructor
  · rintro ⟨⟨name, value⟩, hmem, hfield⟩
    obtain ⟨j, rfl, rfl⟩ := Option.map_eq_some_iff.mp hfield
    exact hmem
  · exact fun hmem => ⟨_, hmem, rfl⟩

theorem names_present_sublist (fields : List (String × Option Json)) :
    ((present fields).map Prod.fst).Sublist (fields.map Prod.fst) := by
  induction fields with
  | nil => exact .slnil
  | cons field fields ih =>
    obtain ⟨name, _ | j⟩ := field
    · exact ih.cons name
    · exact ih.cons_cons name

/-- **An object has the fields that have a value**, where no name occurs twice. -/
theorem has_compact (h : (fields.map Prod.fst).Nodup) :
    Has name value (compact fields) ↔ (name, some value) ∈ fields := by
  have hobject : compact fields = object (present fields) := rfl
  rw [hobject]
  constructor
  · generalize hthere : present fields = there
    rintro ⟨-⟩
    exact mem_present.mp (hthere ▸ List.mem_append_right _ List.mem_cons_self)
  · intro hfield
    have hmem : (name, value) ∈ present fields := mem_present.mpr hfield
    have hnodup := (names_present_sublist fields).nodup h
    obtain ⟨before, after, hsplit⟩ := List.append_of_mem hmem
    rw [hsplit] at hnodup ⊢
    refine .intro fun field hfield heq => ?_
    rw [List.map_append, List.map_cons] at hnodup
    have hfresh := (List.nodup_cons.mp hnodup.of_append_right).1
    exact hfresh (List.mem_map.mpr ⟨field, hfield, heq⟩)

end Rollout.Json
