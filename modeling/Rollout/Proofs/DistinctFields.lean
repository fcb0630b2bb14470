import Rollout.Toml.Parser

/-!
# A document names no field twice

Tables grow in three ways: by the pairs below their header, by dotted keys, and by the headers of the
tables in them. None of these adds a field whose name is there, so the fields of each table in a
document have different names, however far in it stands (`Rollout.Toml.Distinct`). The main statement
is `Rollout.Toml.distinct_parse?`. It is why a lookup that takes the first field of a name misses
nothing of what is written (`Rollout.Toml.mem_iff_lookup`).
-/

namespace Rollout.Toml

/-! ### Named values -/

/-- **Values under different names**, all of one kind. -/
structure Named {α : Type} (P : α → Prop) (fields : List (String × α)) : Prop where
  names : (fields.map Prod.fst).Nodup
  values : ∀ field ∈ fields, P field.2

section

variable {α : Type} {P : α → Prop} {fields : List (String × α)} {key : String} {value : α}

theorem named_nil : Named P [] := ⟨List.nodup_nil, nofun⟩

theorem not_mem_of_lookup_eq_none (h : fields.lookup key = none) : key ∉ fields.map Prod.fst := by
  rintro hmem
  obtain ⟨field, hfield, rfl⟩ := List.mem_map.mp hmem
  simpa using List.lookup_eq_none_iff.mp h field hfield

theorem mem_of_lookup (h : fields.lookup key = some value) : (key, value) ∈ fields := by
  obtain ⟨before, after, rfl, -⟩ := List.lookup_eq_some_iff.mp h
  exact List.mem_append_right _ List.mem_cons_self

/-- A field whose name is not there may be added. -/
theorem Named.append (h : Named P fields) (hkey : fields.lookup key = none) (hvalue : P value) :
    Named P (fields ++ [(key, value)]) where
  names := by
    rw [List.map_append, List.nodup_append]
    refine ⟨h.names, List.nodup_cons.mpr ⟨nofun, List.nodup_nil⟩, ?_⟩
    rintro name hname _ hlast rfl
    obtain rfl := List.mem_singleton.mp hlast
    exact not_mem_of_lookup_eq_none hkey hname
  values field hfield := by
    rcases List.mem_append.mp hfield with hold | hnew
    · exact h.values field hold
    · obtain rfl := List.mem_singleton.mp hnew
      exact hvalue

theorem Named.of_lookup (h : Named P fields) (hkey : fields.lookup key = some value) : P value :=
  h.values _ (mem_of_lookup hkey)

/-- **Where names differ, a lookup finds all that is there.** -/
theorem mem_iff_lookup (h : (fields.map Prod.fst).Nodup) :
    (key, value) ∈ fields ↔ fields.lookup key = some value := by
  refine ⟨fun hmem => ?_, mem_of_lookup⟩
  induction fields with
  | nil => cases hmem
  | cons field rest ih =>
    obtain ⟨hfresh, hrest⟩ := List.nodup_cons.mp h
    rcases List.mem_cons.mp hmem with rfl | hmem
    · simp
    · have hne : key ≠ field.1 := by
        rintro rfl
        exact hfresh (List.mem_map.mpr ⟨_, hmem, rfl⟩)
      rw [List.lookup_cons, beq_eq_false_iff_ne.mpr hne]
      exact ih hrest hmem

end

/-! ### Values and drafts -/

/-- Whether a value has no others in it. -/
def isScalar : Toml → Bool
  | list _ | table _ => false
  | _ => true

/-- **A value whose tables name each field once**, however far in they stand. -/
inductive Distinct : Toml → Prop
  | scalar {v : Toml} (h : v.isScalar = true) : Distinct v
  | list {items : List Toml} (h : ∀ v ∈ items, Distinct v) : Distinct (list items)
  | table {fields : List (String × Toml)} (hnames : (fields.map Prod.fst).Nodup)
      (h : ∀ field ∈ fields, Distinct field.2) : Distinct (table fields)

theorem Distinct.named {fields : List (String × Toml)} (h : Distinct (.table fields)) :
    Named Distinct fields := by
  cases h with
  | scalar h => cases h
  | table hnames h => exact ⟨hnames, h⟩

theorem Named.distinct {fields : List (String × Toml)} (h : Named Distinct fields) :
    Distinct (.table fields) := .table h.names h.values

theorem Distinct.item {items : List Toml} {v : Toml} (h : Distinct (.list items)) (hv : v ∈ items) :
    Distinct v := by
  cases h with
  | scalar h => cases h
  | list h => exact h v hv

theorem Distinct.field? {name : String} {v w : Toml} (h : Distinct v)
    (hw : v.field? name = some w) : Distinct w := by
  cases v with
  | table fields => exact h.named.of_lookup hw
  | _ => cases hw

/-- **A draft whose tables name each field once**, those of its values included. -/
inductive Draft.Distinct : Draft → Prop
  | done {v : Toml} (h : Toml.Distinct v) : Distinct (done v)
  | table {origin : Origin} {fields : Fields} (hnames : (fields.map Prod.fst).Nodup)
      (h : ∀ field ∈ fields, Distinct field.2) : Distinct (table origin fields)
  | rows {last : Fields} {before : List Fields}
      (hnames : ∀ row ∈ last :: before, (row.map Prod.fst).Nodup)
      (h : ∀ row ∈ last :: before, ∀ field ∈ row, Distinct field.2) : Distinct (rows last before)

namespace Fields

/-- Fields of a draft with different names. -/
abbrev Distinct (fields : Fields) : Prop := Named Draft.Distinct fields

variable {fields fields' : Fields} {key : String} {value old : Draft} {path : List String}

theorem distinct_table_iff {origin : Origin} :
    Draft.Distinct (.table origin fields) ↔ Distinct fields := by
  constructor
  · intro h
    cases h with
    | table hnames h => exact ⟨hnames, h⟩
  · exact fun h => .table h.names h.values

theorem distinct_rows_iff {last : Fields} {before : List Fields} :
    Draft.Distinct (.rows last before) ↔ Distinct last ∧ ∀ row ∈ before, Distinct row := by
  rw [← List.forall_mem_cons (p := Distinct)]
  constructor
  · intro h
    cases h with
    | rows hnames h => exact fun row hrow => ⟨hnames row hrow, h row hrow⟩
  · exact fun h => .rows (fun row hrow => (h row hrow).names) fun row hrow => (h row hrow).values

/-! ### Changes -/

/-- Setting a field that is there keeps the names. -/
theorem names_set (h : key ∈ fields.map Prod.fst) (value : Draft) :
    (fields.set key value).map Prod.fst = fields.map Prod.fst := by
  induction fields with
  | nil => cases h
  | cons field rest ih =>
    obtain ⟨k, v⟩ := field
    rw [set]
    split
    · rfl
    · rename_i hk
      rw [List.map_cons, List.map_cons, ih ((List.mem_cons.mp h).resolve_left (Ne.symm hk))]

theorem mem_set {field : String × Draft} (h : field ∈ fields.set key value) :
    field ∈ fields ∨ field.2 = value := by
  induction fields with
  | nil => exact .inr (congrArg Prod.snd (List.mem_singleton.mp h))
  | cons head rest ih =>
    obtain ⟨k, v⟩ := head
    rw [set] at h
    split at h
    · rcases List.mem_cons.mp h with rfl | h
      · exact .inr rfl
      · exact .inl (List.mem_cons_of_mem _ h)
    · rcases List.mem_cons.mp h with rfl | h
      · exact .inl List.mem_cons_self
      · exact (ih h).imp_left (List.mem_cons_of_mem _)

theorem Distinct.set (h : Distinct fields) (hkey : fields.lookup key = some old)
    (hvalue : value.Distinct) : Distinct (fields.set key value) where
  names := by
    rw [names_set (List.mem_map.mpr ⟨_, mem_of_lookup hkey, rfl⟩)]
    exact h.names
  values field hfield := by
    rcases mem_set hfield with hold | rfl
    · exact h.values field hold
    · exact hvalue

theorem Distinct.add? (h : Distinct fields) (hvalue : value.Distinct)
    (hadd : fields.add? key value = some fields') : Distinct fields' := by
  unfold Fields.add? at hadd
  split at hadd
  · cases hadd
  · rename_i hkey
    cases hadd
    exact h.append (Option.not_isSome_iff_eq_none.mp hkey) hvalue

/-- **What keeps the names of a table different keeps those of the tables around it so.** -/
theorem Distinct.descend {dotted : Bool} {change : Origin → Fields → Option Fields}
    (hchange : ∀ origin fields fields', Distinct fields → change origin fields = some fields' →
      Distinct fields') (origin : Origin) (h : Distinct fields)
    (hdescend : descend dotted change path origin fields = some fields') : Distinct fields' := by
  induction path generalizing origin fields fields' with
  | nil => exact hchange origin fields fields' h hdescend
  | cons key path ih =>
    rw [Fields.descend] at hdescend
    split at hdescend
    · rename_i hkey
      obtain ⟨inner, hinner, hnew⟩ := Option.bind_eq_some_iff.mp hdescend
      obtain rfl := Option.some.inj hnew
      exact h.append hkey (distinct_table_iff.mpr (ih _ named_nil hinner))
    · cases hdescend
    · rename_i last before hkey
      obtain ⟨last', hlast, hnew⟩ := Option.bind_eq_some_iff.mp hdescend
      obtain rfl := Option.some.inj hnew
      obtain ⟨hrow, hbefore⟩ := distinct_rows_iff.mp (h.of_lookup hkey)
      exact h.set hkey (distinct_rows_iff.mpr ⟨ih _ hrow hlast, hbefore⟩)
    · rename_i origin' inner hkey
      split at hdescend
      · cases hdescend
      · obtain ⟨inner', hinner, hnew⟩ := Option.bind_eq_some_iff.mp hdescend
        obtain rfl := Option.some.inj hnew
        have htable := distinct_table_iff.mp (h.of_lookup hkey)
        exact h.set hkey (distinct_table_iff.mpr (ih _ htable hinner))

theorem Distinct.within {change : Fields → Option Fields}
    (hchange : ∀ fields fields', Distinct fields → change fields = some fields' → Distinct fields')
    (h : Distinct fields) (hwithin : within change path fields = some fields') :
    Distinct fields' := by
  induction path generalizing fields fields' with
  | nil => exact hchange fields fields' h hwithin
  | cons key path ih =>
    rw [Fields.within] at hwithin
    split at hwithin
    · rename_i origin inner hkey
      obtain ⟨inner', hinner, hnew⟩ := Option.bind_eq_some_iff.mp hwithin
      obtain rfl := Option.some.inj hnew
      have htable := distinct_table_iff.mp (h.of_lookup hkey)
      exact h.set hkey (distinct_table_iff.mpr (ih htable hinner))
    · rename_i last before hkey
      obtain ⟨last', hlast, hnew⟩ := Option.bind_eq_some_iff.mp hwithin
      obtain rfl := Option.some.inj hnew
      obtain ⟨hrow, hbefore⟩ := distinct_rows_iff.mp (h.of_lookup hkey)
      exact h.set hkey (distinct_rows_iff.mpr ⟨ih hrow hlast, hbefore⟩)
    · cases hwithin

theorem Distinct.addPair? {v : Toml} (h : Distinct fields) (hv : Toml.Distinct v)
    (hadd : fields.addPair? path key v = some fields') : Distinct fields' := by
  refine h.descend (fun origin fields fields' h hchange => ?_) .header hadd
  split at hchange
  · cases hchange
  · exact h.add? (.done hv) hchange

theorem Distinct.openTable? (h : Distinct fields)
    (hopen : fields.openTable? path key = some fields') : Distinct fields' := by
  refine h.descend (fun origin fields fields' h hchange => ?_) .header hopen
  split at hchange
  · rename_i hkey
    cases hchange
    exact h.append hkey (distinct_table_iff.mpr named_nil)
  · rename_i inner hkey
    cases hchange
    exact h.set hkey (distinct_table_iff.mpr (distinct_table_iff.mp (h.of_lookup hkey)))
  · cases hchange

theorem Distinct.openRow? (h : Distinct fields)
    (hopen : fields.openRow? path key = some fields') : Distinct fields' := by
  refine h.descend (fun origin fields fields' h hchange => ?_) .header hopen
  split at hchange
  · rename_i hkey
    cases hchange
    exact h.append hkey (distinct_rows_iff.mpr ⟨named_nil, nofun⟩)
  · rename_i last before hkey
    cases hchange
    have hrows := distinct_rows_iff.mp (h.of_lookup hkey)
    exact h.set hkey (distinct_rows_iff.mpr ⟨named_nil, List.forall_mem_cons.mpr hrows⟩)
  · cases hchange

end Fields

/-! ### Drafts as values -/

theorem valueFields_eq (fields : Fields) :
    Draft.valueFields fields = fields.map fun field => (field.1, field.2.value) := by
  induction fields with
  | nil => rw [Draft.valueFields, List.map_nil]
  | cons field rest ih => rw [Draft.valueFields, ih, List.map_cons]

theorem mem_valueRows {before : List Fields} {later : List Toml} {v : Toml}
    (h : v ∈ Draft.valueRows before later) :
    v ∈ later ∨ ∃ row ∈ before, v = .table (Draft.valueFields row) := by
  induction before generalizing later with
  | nil =>
    rw [Draft.valueRows] at h
    exact .inl h
  | cons row before ih =>
    rw [Draft.valueRows] at h
    rcases ih h with hlater | ⟨row', hrow', rfl⟩
    · rcases List.mem_cons.mp hlater with rfl | hlater
      · exact .inr ⟨row, List.mem_cons_self, rfl⟩
      · exact .inl hlater
    · exact .inr ⟨row', List.mem_cons_of_mem _ hrow', rfl⟩

/-- Fields keep their names when they become those of a value. -/
theorem named_valueFields {fields : Fields} (hnames : (fields.map Prod.fst).Nodup)
    (h : ∀ field ∈ fields, Distinct field.2.value) : Named Distinct (Draft.valueFields fields) := by
  rw [valueFields_eq]
  refine ⟨by simpa [Function.comp_def] using hnames, fun field hfield => ?_⟩
  obtain ⟨field', hfield', rfl⟩ := List.mem_map.mp hfield
  exact h field' hfield'

theorem Draft.Distinct.value {d : Draft} (h : d.Distinct) : Toml.Distinct d.value := by
  induction h with
  | done h => rwa [Draft.value]
  | table hnames _ ih =>
    rw [Draft.value]
    exact (named_valueFields hnames ih).distinct
  | @rows last before hnames _ ih =>
    rw [Draft.value]
    refine .list fun v hv => ?_
    rcases mem_valueRows hv with hlast | ⟨row, hrow, rfl⟩
    · obtain rfl := List.mem_singleton.mp hlast
      exact (named_valueFields (hnames last List.mem_cons_self) (ih last List.mem_cons_self)).distinct
    · have hmem := List.mem_cons_of_mem last hrow
      exact (named_valueFields (hnames row hmem) (ih row hmem)).distinct

theorem Fields.Distinct.valueFields {fields : Fields} (h : fields.Distinct) :
    Toml.Distinct (.table (Draft.valueFields fields)) :=
  (named_valueFields h.names fun field hfield => (h.values field hfield).value).distinct

/-! ### Reading -/

variable {cs rest : List Char} {v : Toml}

theorem isScalar_wholeValue (written : String) (negative : Bool) (magnitude : Option Nat) :
    (wholeValue written negative magnitude).isScalar = true := by
  unfold wholeValue
  dsimp only
  split <;> rfl

theorem isScalar_number? {word : List Char} (h : number? word = some v) : v.isScalar = true := by
  unfold number? at h
  dsimp only at h
  split at h
  · cases h
    rfl
  · split at h
    · unfold basedNumber? at h
      split at h
      · cases h
        exact isScalar_wholeValue _ _ _
      · cases h
    · split at h
      · obtain ⟨⟨digits, exponent⟩, -, h⟩ := Option.bind_eq_some_iff.mp h
        dsimp only at h
        split at h
        · cases h
          split <;> rfl
        · cases h
      · unfold wholeNumber? at h
        dsimp only at h
        split at h
        · cases h
        · split at h
          · cases h
            exact isScalar_wholeValue _ _ _
          · cases h

theorem isScalar_scalar? (h : scalar? cs = some (v, rest)) : v.isScalar = true := by
  unfold scalar? at h
  dsimp only at h
  split at h
  · cases h
    rfl
  · split at h
    · cases h
      rfl
    · split at h
      · cases h
        rfl
      · obtain ⟨v', hnumber, heq⟩ := Option.map_eq_some_iff.mp h
        cases heq
        exact isScalar_number? hnumber

/-- **What the readers of values, items and pairs have read names each field once.** -/
theorem distinct_readers (fuel : Nat) :
    (∀ depth cs v rest, value? fuel depth cs = some (v, rest) → Distinct v) ∧
    (∀ depth done cs items rest, (∀ v ∈ done, Distinct v) →
      items? fuel depth done cs = some (items, rest) → ∀ v ∈ items, Distinct v) ∧
    ∀ depth done cs fields rest, Fields.Distinct done →
      pairs? fuel depth done cs = some (fields, rest) → Fields.Distinct fields := by
  -- the readers call each other, each time with less fuel
  induction fuel with
  | zero => exact ⟨nofun, nofun, nofun⟩
  | succ fuel ih =>
    obtain ⟨hvalue, hitems, hpairs⟩ := ih
    refine ⟨?_, ?_, ?_⟩
    · intro depth cs v rest h
      unfold value? at h
      split at h
      · cases depth with
        | zero => cases h
        | succ depth =>
          obtain ⟨⟨items, behind⟩, hread, heq⟩ := Option.map_eq_some_iff.mp h
          cases heq
          exact .list (hitems _ _ _ _ _ (List.forall_mem_nil _) hread)
      · cases depth with
        | zero => cases h
        | succ depth =>
          obtain ⟨⟨fields, behind⟩, hread, heq⟩ := Option.map_eq_some_iff.mp h
          cases heq
          exact (hpairs _ _ _ _ _ named_nil hread).valueFields
      · obtain ⟨⟨s, behind⟩, -, heq⟩ := Option.map_eq_some_iff.mp h
        cases heq
        exact .scalar rfl
      · obtain ⟨⟨s, behind⟩, -, heq⟩ := Option.map_eq_some_iff.mp h
        cases heq
        exact .scalar rfl
      · exact .scalar (isScalar_scalar? h)
    · intro depth done cs items rest hdone h
      unfold items? at h
      obtain ⟨front, -, h⟩ := Option.bind_eq_some_iff.mp h
      split at h
      · cases h
        exact hdone
      · obtain ⟨⟨v, behind⟩, hread, h⟩ := Option.bind_eq_some_iff.mp h
        have hmore : ∀ w ∈ done ++ [v], Distinct w :=
          List.forall_mem_append.mpr ⟨hdone, List.forall_mem_singleton.mpr (hvalue _ _ _ _ hread)⟩
        obtain ⟨next, -, h⟩ := Option.bind_eq_some_iff.mp h
        split at h
        · exact hitems _ _ _ _ _ hmore h
        · cases h
          exact hmore
        · cases h
    · intro depth done cs fields rest hdone h
      unfold pairs? at h
      obtain ⟨front, -, h⟩ := Option.bind_eq_some_iff.mp h
      split at h
      · cases h
        exact hdone
      · obtain ⟨⟨path, key, cs⟩, -, h⟩ := Option.bind_eq_some_iff.mp h
        obtain ⟨⟨v, behind⟩, hread, h⟩ := Option.bind_eq_some_iff.mp h
        obtain ⟨more, hadd, h⟩ := Option.bind_eq_some_iff.mp h
        have hmore := hdone.addPair? (hvalue _ _ _ _ hread) hadd
        obtain ⟨next, -, h⟩ := Option.bind_eq_some_iff.mp h
        split at h
        · exact hpairs _ _ _ _ _ hmore h
        · cases h
          exact hmore
        · cases h

/-- A header opens a table that is not there, or only on the way to others. -/
theorem distinct_header? {p p' : Progress} (hp : p.fields.Distinct)
    (h : header? p cs = some (p', rest)) : p'.fields.Distinct := by
  unfold header? at h
  split at h
  · obtain ⟨⟨path, key, behind⟩, -, h⟩ := Option.bind_eq_some_iff.mp h
    dsimp only at h
    split at h
    · obtain ⟨fields, hopen, h⟩ := Option.bind_eq_some_iff.mp h
      cases h
      exact hp.openRow? hopen
    · cases h
  · obtain ⟨⟨path, key, behind⟩, -, h⟩ := Option.bind_eq_some_iff.mp h
    dsimp only at h
    split at h
    · obtain ⟨fields, hopen, h⟩ := Option.bind_eq_some_iff.mp h
      cases h
      exact hp.openTable? hopen
    · cases h

theorem distinct_pair? {p p' : Progress} (hp : p.fields.Distinct)
    (h : pair? p cs = some (p', rest)) : p'.fields.Distinct := by
  unfold pair? at h
  obtain ⟨⟨path, key, behind⟩, -, h⟩ := Option.bind_eq_some_iff.mp h
  obtain ⟨⟨v, behind'⟩, hread, h⟩ := Option.bind_eq_some_iff.mp h
  obtain ⟨fields, hwithin, h⟩ := Option.bind_eq_some_iff.mp h
  cases h
  have hv := (distinct_readers _).1 _ _ _ _ hread
  exact hp.within (fun _ _ hfields hadd => hfields.addPair? hv hadd) hwithin

/-- **Line after line, no name comes twice.** -/
theorem distinct_lines? {steps : Nat} {p : Progress} {fields : Fields} (hp : p.fields.Distinct)
    (h : lines? steps p cs = some fields) : fields.Distinct := by
  induction steps generalizing p cs with
  | zero => cases h
  | succ steps ih =>
    unfold lines? at h
    obtain ⟨front, -, h⟩ := Option.bind_eq_some_iff.mp h
    split at h
    · cases h
      exact hp
    · dsimp only at h
      split at h
      · obtain ⟨⟨p', behind⟩, hline, h⟩ := Option.bind_eq_some_iff.mp h
        obtain ⟨next, -, h⟩ := Option.bind_eq_some_iff.mp h
        exact ih (distinct_header? hp hline) h
      · obtain ⟨⟨p', behind⟩, hline, h⟩ := Option.bind_eq_some_iff.mp h
        obtain ⟨next, -, h⟩ := Option.bind_eq_some_iff.mp h
        exact ih (distinct_pair? hp hline) h

/-- **A document is a table, and names no field twice.** -/
theorem distinct_parse? {s : String} {doc : Toml} (h : parse? s = some doc) :
    ∃ fields, doc = .table fields ∧ Named Distinct fields := by
  obtain ⟨fields, hlines, h⟩ := Option.bind_eq_some_iff.mp h
  cases h
  exact ⟨_, rfl, (distinct_lines? named_nil hlines).valueFields.named⟩

end Rollout.Toml
