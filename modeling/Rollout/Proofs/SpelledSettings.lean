import Mathlib.Data.List.Forall2
import Rollout.Proofs.DistinctFields
import Rollout.Settings.Decode

/-!
# What the values of a settings file spell

Each kind of value is spelled in one way: a text as a text, a duration as a text in words, a list as
a list of what its items spell, a record as a table of its fields. A reader answers exactly what a
value spells, provided that the numbers in it can be read (`Rollout.Settings.Reads`), and nothing
where it spells nothing.

A field that may be left out *stands* for what is written there, or for its default
(`Rollout.Settings.Stands`). The records in lists are conditions and images; their readers are
`Rollout.Settings.reads_condition` and `Rollout.Settings.reads_image`.
-/

namespace Rollout

namespace Toml

/-- **A table that names each field once**, as the tables of a document do. -/
def Tidy (v : Toml) : Prop := ∃ fields, v = .table fields ∧ Named Distinct fields

theorem areReadable_iff {items : List Toml} :
    areReadable items = true ↔ ∀ v ∈ items, v.isReadable = true := by
  induction items with
  | nil => simp [areReadable]
  | cons v rest ih => rw [areReadable, Bool.and_eq_true, ih, List.forall_mem_cons]

theorem areReadableFields_iff {fields : List (String × Toml)} :
    areReadableFields fields = true ↔ ∀ field ∈ fields, field.2.isReadable = true := by
  induction fields with
  | nil => simp [areReadableFields]
  | cons field rest ih => rw [areReadableFields, Bool.and_eq_true, ih, List.forall_mem_cons]

end Toml

namespace Settings

variable {α : Type} {Spells : Toml → α → Prop} {read : Toml → Option α} {default a : α}
  {fields : List (String × Toml)} {name : String} {v : Toml}

/-! ### Single values -/

/-- **What a field stands for** that may be left out: what is spelled there, or else the default. -/
inductive Stands (Spells : Toml → α → Prop) (default : α) : Option Toml → α → Prop
  | given {v : Toml} {a : α} (h : Spells v a) : Stands Spells default (some v) a
  | absent : Stands Spells default none default

theorem stands_none_iff : Stands Spells default none a ↔ a = default := by
  constructor
  · rintro ⟨⟩
    rfl
  · rintro rfl
    exact .absent

theorem stands_some_iff : Stands Spells default (some v) a ↔ Spells v a := by
  constructor
  · rintro ⟨h⟩
    exact h
  · exact .given

/-- A text spells itself. -/
def SpellsText (v : Toml) (s : String) : Prop := v = .text s

/-- A truth value spells itself. -/
def SpellsBool (v : Toml) (b : Bool) : Prop := v = .bool b

/-- Where a text may be missing, one that is there is a text. -/
def SpellsSome (v : Toml) (s : Option String) : Prop := ∃ t, v = .text t ∧ s = some t

/-- A text spells a duration in words. -/
def SpellsDuration (v : Toml) (d : Duration) : Prop := ∃ s, v = .text s ∧ Duration.parse? s = some d

/-- A list spells what its items spell, in order. -/
def SpellsAll (Spells : Toml → α → Prop) (v : Toml) (as : List α) : Prop :=
  ∃ items, v = .list items ∧ List.Forall₂ Spells items as

/-- A name is spelled as a text, or as a table whose one field has that name and nothing in it. -/
inductive SpellsName (name : String) : Toml → Prop
  | text : SpellsName name (.text name)
  | table {v : Toml} (h : v = .table [] ∨ v = .list []) : SpellsName name (.table [(name, v)])

/-- A kind is spelled by its name. -/
def SpellsKind (v : Toml) (kind : ResourceKind) : Prop := SpellsName kind.name v

/-- A predicate is spelled by its name. -/
def SpellsPredicate (v : Toml) (predicate : Predicate) : Prop := SpellsName predicate.name v

/-- **A condition**: kind and name have to be there, and the rest has defaults of its own. -/
structure SpellsCondition (v : Toml) (c : Condition) : Prop where
  kind : ∃ w, v.field? "kind" = some w ∧ SpellsKind w c.kind
  name : ∃ w, v.field? "name" = some w ∧ SpellsText w c.name
  space : Stands SpellsText "default" (v.field? "namespace") c.space
  predicate : Stands SpellsPredicate .available (v.field? "predicate") c.predicate
  timeout : Stands SpellsDuration (.ofSeconds (5 * 60)) (v.field? "timeout") c.timeout

/-- **An image**: its name has to be there, and the place of its description may be. -/
structure SpellsImage (v : Toml) (image : ImageSpec) : Prop where
  name : ∃ w, v.field? "name" = some w ∧ SpellsText w image.name
  dockerfile : Stands SpellsSome none (v.field? "dockerfile") image.dockerfile

/-! ### One value, one meaning

What a value spells is settled by the value alone.
-/

theorem SpellsName.unique {name name' : String} (h : SpellsName name v) (h' : SpellsName name' v) :
    name = name' := by
  cases h <;> cases h' <;> rfl

theorem unique_text : Relator.RightUnique SpellsText := by
  rintro _ s s' rfl h
  exact Toml.text.inj h

theorem unique_bool : Relator.RightUnique SpellsBool := by
  rintro _ b b' rfl h
  exact Toml.bool.inj h

theorem unique_some : Relator.RightUnique SpellsSome := by
  rintro _ s s' ⟨t, rfl, rfl⟩ ⟨t', ht', rfl⟩
  exact congrArg some (Toml.text.inj ht')

theorem unique_duration : Relator.RightUnique SpellsDuration := by
  rintro _ d d' ⟨s, rfl, hd⟩ ⟨s', hs', hd'⟩
  obtain rfl := Toml.text.inj hs'
  exact Option.some.inj (hd.symm.trans hd')

theorem unique_all (h : Relator.RightUnique Spells) : Relator.RightUnique (SpellsAll Spells) := by
  rintro _ as as' ⟨items, rfl, has⟩ ⟨items', hitems', has'⟩
  obtain rfl := Toml.list.inj hitems'
  exact h.forall₂ has has'

theorem unique_kind : Relator.RightUnique SpellsKind := by
  intro v kind kind' h h'
  have hname : kind.name = kind'.name := SpellsName.unique h h'
  exact Option.some.inj (by rw [← kind.ofName?_name, hname, kind'.ofName?_name])

theorem unique_predicate : Relator.RightUnique SpellsPredicate := by
  intro v predicate predicate' h h'
  have hname : predicate.name = predicate'.name := SpellsName.unique h h'
  exact Option.some.inj (by rw [← predicate.ofName?_name, hname, predicate'.ofName?_name])

theorem unique_stands (h : Relator.RightUnique Spells) :
    Relator.RightUnique (Stands Spells default) := by
  rintro v? a a' (ha | _) ha'
  · exact h ha (stands_some_iff.mp ha')
  · exact (stands_none_iff.mp ha').symm

/-- A field that is there spells one thing. -/
theorem unique_field (h : Relator.RightUnique Spells) {v? : Option Toml} {a a' : α}
    (ha : ∃ w, v? = some w ∧ Spells w a) (ha' : ∃ w, v? = some w ∧ Spells w a') : a = a' := by
  obtain ⟨w, rfl, hw⟩ := ha
  obtain ⟨w', hw', ha'⟩ := ha'
  obtain rfl := Option.some.inj hw'
  exact h hw ha'

theorem unique_condition : Relator.RightUnique SpellsCondition := by
  rintro v ⟨kind, name, space, predicate, timeout⟩ c' h h'
  obtain rfl := unique_field unique_kind h.kind h'.kind
  obtain rfl := unique_field unique_text h.name h'.name
  obtain rfl := unique_stands unique_text h.space h'.space
  obtain rfl := unique_stands unique_predicate h.predicate h'.predicate
  obtain rfl := unique_stands unique_duration h.timeout h'.timeout
  rfl

theorem unique_image : Relator.RightUnique SpellsImage := by
  rintro v ⟨name, dockerfile⟩ image' h h'
  obtain rfl := unique_field unique_text h.name h'.name
  obtain rfl := unique_stands unique_some h.dockerfile h'.dockerfile
  rfl

/-! ### Readers -/

/-- **A reader answers exactly what a value spells**, if the numbers in it can be read. -/
def Reads (read : Toml → Option α) (Spells : Toml → α → Prop) (v : Toml) : Prop :=
  ∀ a, read v = some a ↔ v.isReadable = true ∧ Spells v a

theorem reads_text (v : Toml) : Reads text? SpellsText v := by
  intro s
  cases v <;> simp [text?, SpellsText, Toml.isReadable]

theorem reads_bool (v : Toml) : Reads bool? SpellsBool v := by
  intro b
  cases v <;> simp [bool?, SpellsBool, Toml.isReadable]

theorem reads_optionalText (v : Toml) : Reads optionalText? SpellsSome v := by
  intro s
  cases v with
  | text t => simpa [optionalText?, text?, SpellsSome, Toml.isReadable] using eq_comm
  | _ => simp [optionalText?, text?, SpellsSome]

theorem reads_duration (v : Toml) : Reads duration? SpellsDuration v := by
  intro d
  cases v <;> simp [duration?, text?, SpellsDuration, Toml.isReadable]

theorem isVoid_iff : isVoid v = true ↔ v = .table [] ∨ v = .list [] := by
  unfold isVoid
  split <;> simp_all

/-- One of some names is read as what has that name. -/
theorem reads_choice {ofName? : String → Option α} {nameOf : α → String}
    (h : ∀ name a, ofName? name = some a ↔ nameOf a = name) (v : Toml) :
    Reads (choice? ofName?) (fun v a => SpellsName (nameOf a) v) v := by
  intro a
  constructor
  · intro hread
    unfold choice? at hread
    split at hread
    · rw [h] at hread
      subst hread
      exact ⟨rfl, .text⟩
    · rename_i name w
      split at hread
      · rename_i hvoid
        rw [h] at hread
        subst hread
        refine ⟨?_, .table (isVoid_iff.mp hvoid)⟩
        rcases isVoid_iff.mp hvoid with rfl | rfl <;> rfl
      · cases hread
    · cases hread
  · rintro ⟨-, hspells⟩
    cases hspells with
    | text => exact (h _ _).mpr rfl
    | table hvoid =>
      rw [choice?, if_pos (isVoid_iff.mpr hvoid)]
      exact (h _ _).mpr rfl

theorem ofName?_kind_iff (name : String) (kind : ResourceKind) :
    ResourceKind.ofName? name = some kind ↔ kind.name = name := by
  constructor
  · intro h
    simpa using List.find?_some h
  · rintro rfl
    exact kind.ofName?_name

theorem ofName?_predicate_iff (name : String) (predicate : Predicate) :
    Predicate.ofName? name = some predicate ↔ predicate.name = name := by
  constructor
  · intro h
    simpa using List.find?_some h
  · rintro rfl
    exact predicate.ofName?_name

theorem reads_kind (v : Toml) : Reads (choice? ResourceKind.ofName?) SpellsKind v :=
  reads_choice ofName?_kind_iff v

theorem reads_predicate (v : Toml) : Reads (choice? Predicate.ofName?) SpellsPredicate v :=
  reads_choice ofName?_predicate_iff v

/-! ### Lists -/

theorem mapM_eq_some_iff {items : List Toml} {as : List α} (h : ∀ w ∈ items, Reads read Spells w) :
    items.mapM read = some as ↔
      (∀ w ∈ items, w.isReadable = true) ∧ List.Forall₂ Spells items as := by
  induction items generalizing as with
  | nil =>
    rw [List.mapM_nil]
    constructor
    · rintro ⟨⟩
      exact ⟨nofun, .nil⟩
    · rintro ⟨-, ⟨⟩⟩
      rfl
  | cons v rest ih =>
    obtain ⟨hv, hrest⟩ := List.forall_mem_cons.mp h
    rw [List.mapM_cons, List.forall_mem_cons]
    constructor
    · intro hread
      obtain ⟨a, ha, hread⟩ := Option.bind_eq_some_iff.mp hread
      obtain ⟨as, has, heq⟩ := Option.bind_eq_some_iff.mp hread
      cases heq
      obtain ⟨hreadable, hspells⟩ := (hv a).mp ha
      obtain ⟨hreadables, hall⟩ := (ih hrest).mp has
      exact ⟨⟨hreadable, hreadables⟩, .cons hspells hall⟩
    · rintro ⟨⟨hreadable, hreadables⟩, hspells⟩
      cases hspells with
      | cons hspells hall =>
        rw [(hv _).mpr ⟨hreadable, hspells⟩, (ih hrest).mpr ⟨hreadables, hall⟩]
        rfl

/-- A list is read item by item. -/
theorem reads_list (h : ∀ items, v = .list items → ∀ w ∈ items, Reads read Spells w) :
    Reads (list? read) (SpellsAll Spells) v := by
  intro as
  cases v with
  | list items =>
    rw [list?, mapM_eq_some_iff (h items rfl), Toml.isReadable, Toml.areReadable_iff]
    simp [SpellsAll]
  | _ => simp [list?, SpellsAll]

theorem reads_texts (v : Toml) : Reads (list? text?) (SpellsAll SpellsText) v :=
  reads_list fun _ _ w _ => reads_text w

/-! ### Fields -/

/-- Whether the numbers in a field can be read, if it is there. -/
def Readable (v? : Option Toml) : Prop := ∀ v, v? = some v → v.isReadable = true

/-- A field that has to be there is read as what it spells. -/
theorem field?_iff (h : ∀ v, fields.lookup name = some v → Reads read Spells v) :
    field? fields name read = some a ↔
      Readable (fields.lookup name) ∧ ∃ w, fields.lookup name = some w ∧ Spells w a := by
  rw [field?]
  cases hlookup : fields.lookup name with
  | none => simp
  | some v => simp [Readable, h v hlookup a]

/-- A field that may be left out is read as its kind of value says, with and without one. -/
theorem fieldOr?_iff_of (Says : Option Toml → α → Prop) (hnone : ∀ a, Says none a ↔ a = default)
    (h : ∀ v, fields.lookup name = some v → Reads read (fun v => Says (some v)) v) :
    fieldOr? fields name read default = some a ↔
      Readable (fields.lookup name) ∧ Says (fields.lookup name) a := by
  rw [fieldOr?]
  cases hlookup : fields.lookup name with
  | none =>
    rw [hnone]
    constructor
    · rintro ⟨⟩
      exact ⟨nofun, rfl⟩
    · rintro ⟨-, rfl⟩
      rfl
  | some v => simp [Readable, h v hlookup a]

/-- **A field that may be left out is read as what it stands for.** -/
theorem fieldOr?_iff (h : ∀ v, fields.lookup name = some v → Reads read Spells v) :
    fieldOr? fields name read default = some a ↔
      Readable (fields.lookup name) ∧ Stands Spells default (fields.lookup name) a := by
  refine fieldOr?_iff_of (Stands Spells default) (fun _ => stands_none_iff)
    fun v hv a => (h v hv a).trans ?_
  exact and_congr_right' stands_some_iff.symm

/-- The check that lets the fields of a record pass. -/
def Passes (names : List String) (fields : List (String × Toml)) : Prop :=
  fields.all (fun (name, v) => names.contains name || v.isReadable) = true

theorem record?_iff {names : List String} {fields' : List (String × Toml)} :
    record? names (.table fields) = some fields' ↔ Passes names fields ∧ fields = fields' := by
  rw [record?, Passes]
  split
  · rename_i hpasses
    exact ⟨fun h => ⟨hpasses, Option.some.inj h⟩, fun h => congrArg some h.2⟩
  · rename_i hpasses
    exact ⟨nofun, fun h => absurd h.1 hpasses⟩

/-- **A table can be read if its unknown fields pass and its known ones can be read.** -/
theorem isReadable_iff (names : List String) (h : (fields.map Prod.fst).Nodup) :
    (Toml.table fields).isReadable = true ↔
      Passes names fields ∧ ∀ name ∈ names, Readable (fields.lookup name) := by
  rw [Toml.isReadable, Toml.areReadableFields_iff, Passes, List.all_eq_true]
  constructor
  · intro hall
    refine ⟨fun field hfield => by simp [hall field hfield], fun name _ v hv => ?_⟩
    exact hall _ (Toml.mem_of_lookup hv)
  · rintro ⟨hpasses, hknown⟩ ⟨name, v⟩ hfield
    rcases Bool.or_eq_true_iff.mp (hpasses _ hfield) with hname | hreadable
    · exact hknown name (List.contains_iff_mem.mp hname) v ((Toml.mem_iff_lookup h).mp hfield)
    · exact hreadable

/-! ### Records in lists -/

/-- **A condition is read as what its table spells.** -/
theorem reads_condition (h : v.Tidy) : Reads condition? SpellsCondition v := by
  obtain ⟨fields, rfl, hnamed⟩ := h
  rintro ⟨kind, name, space, predicate, timeout⟩
  have hfields : condition? (.table fields) = some ⟨kind, name, space, predicate, timeout⟩ ↔
      Passes ["kind", "name", "namespace", "predicate", "timeout"] fields ∧
      field? fields "kind" (choice? ResourceKind.ofName?) = some kind ∧
      field? fields "name" text? = some name ∧
      fieldOr? fields "namespace" text? Condition.defaultNamespace = some space ∧
      fieldOr? fields "predicate" (choice? Predicate.ofName?) .available = some predicate ∧
      fieldOr? fields "timeout" duration? Condition.defaultTimeout = some timeout := by
    simp [condition?, Option.bind_eq_some_iff, record?_iff]
  rw [hfields, field?_iff fun v _ => reads_kind v, field?_iff fun v _ => reads_text v,
    fieldOr?_iff fun v _ => reads_text v, fieldOr?_iff fun v _ => reads_predicate v,
    fieldOr?_iff fun v _ => reads_duration v,
    isReadable_iff ["kind", "name", "namespace", "predicate", "timeout"] hnamed.names]
  simp only [List.forall_mem_cons]
  constructor
  · rintro ⟨hpasses, ⟨hr₁, hkind⟩, ⟨hr₂, hname⟩, ⟨hr₃, hspace⟩, ⟨hr₄, hpredicate⟩, hr₅, htimeout⟩
    exact ⟨⟨hpasses, hr₁, hr₂, hr₃, hr₄, hr₅, nofun⟩, hkind, hname, hspace, hpredicate, htimeout⟩
  · rintro ⟨⟨hpasses, hr₁, hr₂, hr₃, hr₄, hr₅, -⟩, hkind, hname, hspace, hpredicate, htimeout⟩
    exact ⟨hpasses, ⟨hr₁, hkind⟩, ⟨hr₂, hname⟩, ⟨hr₃, hspace⟩, ⟨hr₄, hpredicate⟩, hr₅, htimeout⟩

/-- **An image is read as what its table spells.** -/
theorem reads_image (h : v.Tidy) : Reads image? SpellsImage v := by
  obtain ⟨fields, rfl, hnamed⟩ := h
  rintro ⟨name, dockerfile⟩
  have hfields : image? (.table fields) = some ⟨name, dockerfile⟩ ↔
      Passes ["name", "dockerfile"] fields ∧ field? fields "name" text? = some name ∧
        fieldOr? fields "dockerfile" optionalText? none = some dockerfile := by
    simp [image?, Option.bind_eq_some_iff, record?_iff]
  rw [hfields, field?_iff fun v _ => reads_text v, fieldOr?_iff fun v _ => reads_optionalText v,
    isReadable_iff ["name", "dockerfile"] hnamed.names]
  simp only [List.forall_mem_cons]
  constructor
  · rintro ⟨hpasses, ⟨hr₁, hname⟩, hr₂, hdockerfile⟩
    exact ⟨⟨hpasses, hr₁, hr₂, nofun⟩, hname, hdockerfile⟩
  · rintro ⟨⟨hpasses, hr₁, hr₂, -⟩, hname, hdockerfile⟩
    exact ⟨hpasses, ⟨hr₁, hname⟩, hr₂, hdockerfile⟩

end Settings

end Rollout
