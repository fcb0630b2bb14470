import Rollout.Json.Printer
import Rollout.Proofs.Numerals

/-!
# Reading what was printed

A value that is printed with a line per item is read again as what it was, in the middle of a text
as well as alone. This is so for each *plain* value: one whose numbers are whole and held by 64
bits, and which nests no deeper than the reader goes (`Rollout.Json.Plain`).

| part of a value | how it is read again |
|---|---|
| a number | its numeral spells it, and what follows is no digit |
| a text | character by character, each behind what escapes it |
| a list, an object | item by item, each at the head of a block |

The items of a list and the fields of an object are laid out alike (`Rollout.Json.block`), and the
loops that read them begin with the same look at what comes next. So a block is read again once and
for all, by whichever loop and with whichever reader of its items
(`Rollout.Json.Reader.IsLoop.block`).

The main statements are `Rollout.Json.textBody_escape`, `Rollout.Json.Plain.takes` and
`Rollout.Json.parse_pretty`.
-/

namespace Rollout.Json

/-! ### Texts -/

theorem hexDigit_spec {n : Nat} (h : n < 16) :
    Text.hexValue? (hexDigit n) = some n ∧ (hexDigit n).utf8Size = 1 := by
  interval_cases n <;> decide

/-- A control character is read again from its two hexadecimal digits. -/
theorem unicodeEscape_hexDigit {c : Char} (hc : c.toNat < 32) (rest : List Char) :
    unicodeEscape ('0' :: '0' :: hexDigit (c.toNat / 16) :: hexDigit (c.toNat % 16) :: rest) =
      .ok (c, rest) := by
  obtain ⟨hhigh, hhighSize⟩ := hexDigit_spec (show c.toNat / 16 < 16 by omega)
  obtain ⟨hlow, hlowSize⟩ := hexDigit_spec (show c.toNat % 16 < 16 by omega)
  have hzero : Text.hexValue? '0' = some 0 := by decide
  have hread : hex4 ('0' :: '0' :: hexDigit (c.toNat / 16) :: hexDigit (c.toNat % 16) :: rest) =
      .ok (c.toNat, rest) := by
    have hsize : ¬Text.Utf8.size (List.take 4
        ('0' :: '0' :: hexDigit (c.toNat / 16) :: hexDigit (c.toNat % 16) :: rest)) < 4 := by
      simp [Text.Utf8.size, hhighSize, hlowSize]
      decide
    rw [hex4, if_neg hsize]
    simp only [hzero, hhigh, hlow]
    congr 2
    omega
  rw [unicodeEscape, hread]
  simp only [Char.ofNat_toNat]
  rw [if_neg (by omega), if_neg (by omega)]

/-- **A character is read again** behind what escapes it. -/
theorem textTail_escape (steps : Nat) (done : List Char) (c : Char) (rest : List Char) :
    textTail (steps + 1) done (escape c ++ rest) = textTail steps (c :: done) rest := by
  unfold escape
  split_ifs with hquote hslash hfeed hreturn htab hback hform hcontrol
  · subst hquote; rfl
  · subst hslash; rfl
  · subst hfeed; rfl
  · subst hreturn; rfl
  · subst htab; rfl
  · subst hback; rfl
  · subst hform; rfl
  · simp [textTail, escaped, unicodeEscape_hexDigit hcontrol]
  · simp [textTail, hquote, hslash, hcontrol]

/-- **A text is read again**, up to its closing quote. -/
theorem textTail_flatMap {cs : List Char} {steps : Nat} (h : cs.length < steps) (done : List Char)
    (rest : List Char) :
    textTail steps done (cs.flatMap escape ++ '\x22' :: rest) =
      .ok (String.ofList (done.reverse ++ cs), rest) := by
  induction cs generalizing steps done with
  | nil =>
    obtain ⟨steps, rfl⟩ := Nat.exists_eq_succ_of_ne_zero (by omega : steps ≠ 0)
    simp [textTail]
  | cons c cs ih =>
    obtain ⟨steps, rfl⟩ := Nat.exists_eq_succ_of_ne_zero (by omega : steps ≠ 0)
    rw [List.length_cons] at h
    rw [List.flatMap_cons, List.append_assoc, textTail_escape, ih (by omega)]
    simp

theorem length_le_flatMap_escape (cs : List Char) : cs.length ≤ (cs.flatMap escape).length := by
  induction cs with
  | nil => exact Nat.zero_le _
  | cons c cs ih =>
    have hone : 1 ≤ (escape c).length := by
      unfold escape
      split_ifs <;> simp
    rw [List.flatMap_cons, List.length_append, List.length_cons]
    omega

/-- **A text is read again** behind its opening quote. -/
theorem textBody_escape (s : String) (rest : List Char) :
    textBody (s.toList.flatMap escape ++ '\x22' :: rest) = .ok (s, rest) := by
  have hle := length_le_flatMap_escape s.toList
  rw [textBody, textTail_flatMap (by rw [List.length_append]; omega)]
  simp

/-! ### Blocks -/

/-- **The items of a list or the fields of an object** as they are laid out, `depth` levels in and
up to the bracket that closes them. Each stands on a line of its own, behind a comma if it is not
the `first`. -/
def block (depth : Nat) (close : Char) : (first : Bool) → List (List Char) → List Char
  | true, [] => [close]
  | false, [] => newline depth ++ [close]
  | true, item :: rest => newline (depth + 1) ++ (item ++ block depth close false rest)
  | false, item :: rest => ',' :: newline (depth + 1) ++ (item ++ block depth close false rest)

/-- **Characters that begin an item**: neither with a blank nor with the bracket that would close
the block. -/
def Begins (close : Char) (item : List Char) : Prop :=
  ∃ c rest, item = c :: rest ∧ isSpace c = false ∧ c ≠ close

section Blocks

variable {depth : Nat} {close : Char} {first : Bool} {item : List Char} {items : List (List Char)}

theorem skipSpace_newline_append (depth : Nat) (cs : List Char) :
    skipSpace (newline depth ++ cs) = skipSpace cs := by
  refine List.dropWhile_append_of_pos fun c hc => ?_
  rcases List.mem_cons.mp hc with rfl | hc
  · rfl
  · rw [List.eq_of_mem_replicate hc]
    rfl

theorem skipSpace_cons {c : Char} (hc : isSpace c = false) (cs : List Char) :
    skipSpace (c :: cs) = c :: cs :=
  List.dropWhile_cons_of_neg (by simp [hc])

theorem length_block_pos (depth : Nat) (close : Char) (first : Bool) (items : List (List Char)) :
    0 < (block depth close first items).length := by
  cases first <;> cases items <;> simp [block, newline]

theorem length_block_cons (depth : Nat) (close : Char) (first : Bool) (item : List Char)
    (items : List (List Char)) :
    item.length + (block depth close false items).length <
      (block depth close first (item :: items)).length := by
  cases first <;> simp only [block, newline, List.length_append, List.length_cons] <;> omega

/-- What is left of a block ends the number that stands before it. -/
theorem endsNumber_block (depth : Nat) (close : Char) (items : List (List Char))
    (rest : List Char) : EndsNumber (block depth close false items ++ rest) := by
  intro c hc
  have hfeed : c = '\n' ∨ c = ',' := by
    cases items with
    | nil => exact .inl (Option.some.inj hc).symm
    | cons item items => exact .inr (Option.some.inj hc).symm
  rcases hfeed with rfl | rfl <;> decide

variable (atEnd missing : Fault)

/-- **At the end of a block** the reader finds it. -/
theorem nextItem_block_nil (hclose : isSpace close = false) (depth : Nat) (rest : List Char) :
    nextItem first close atEnd missing (block depth close first [] ++ rest) =
      .ok (false, rest) := by
  have hahead : skipSpace (block depth close first [] ++ rest) = close :: rest := by
    cases first with
    | true => exact skipSpace_cons hclose rest
    | false =>
      rw [block, List.append_assoc, skipSpace_newline_append]
      exact skipSpace_cons hclose rest
  rw [nextItem, hahead]
  simp

/-- **At an item of a block** the reader finds the item, and behind it the others. -/
theorem nextItem_block_cons (hcomma : close ≠ ',') (hitem : Begins close item) (depth : Nat)
    (items : List (List Char)) (rest : List Char) :
    nextItem first close atEnd missing (block depth close first (item :: items) ++ rest) =
      .ok (true, item ++ (block depth close false items ++ rest)) := by
  obtain ⟨c, more, rfl, hspace, hc⟩ := hitem
  have hahead : skipSpace (newline (depth + 1) ++ (c :: more ++ (block depth close false items ++
      rest))) = c :: more ++ (block depth close false items ++ rest) := by
    rw [skipSpace_newline_append]
    exact skipSpace_cons hspace _
  cases first with
  | true =>
    rw [block, List.append_assoc, List.append_assoc, nextItem, hahead]
    simp [hc]
  | false =>
    have hseparator : isSpace ',' = false := rfl
    rw [block, List.cons_append, List.cons_append, List.append_assoc, List.append_assoc, nextItem,
      skipSpace_cons hseparator]
    simp only [hahead]
    simp [hc, hcomma.symm]

end Blocks

/-! ### Layout -/

/-- A field of an object as it is laid out, `depth` levels in. -/
def fieldChars (depth : Nat) (field : String × Json) : List Char :=
  quote field.1 ++ ':' :: ' ' :: prettyChars depth field.2

theorem prettyItems_append (depth : Nat) (j : Json) (items : List Json) :
    prettyItems (depth + 1) (j :: items) ++ (newline depth ++ [']']) =
      prettyChars (depth + 1) j ++ block depth ']' false (items.map (prettyChars (depth + 1))) := by
  induction items generalizing j with
  | nil => rw [prettyItems, List.map_nil, block]
  | cons k items ih => simp [prettyItems, block, ih]

theorem prettyFields_append (depth : Nat) (field : String × Json) (fields : List (String × Json)) :
    prettyFields (depth + 1) (field :: fields) ++ (newline depth ++ ['}']) =
      fieldChars (depth + 1) field ++
        block depth '}' false (fields.map (fieldChars (depth + 1))) := by
  induction fields generalizing field with
  | nil => rw [prettyFields, List.map_nil, block, fieldChars]
  | cons next fields ih => simp [prettyFields, block, fieldChars, ih]

/-- **A list is a bracket and a block** of its items. -/
theorem prettyChars_list (depth : Nat) (items : List Json) : prettyChars depth (list items) =
    '[' :: block depth ']' true (items.map (prettyChars (depth + 1))) := by
  cases items with
  | nil => rw [prettyChars, List.map_nil, block]
  | cons j items => simp [prettyChars, block, prettyItems_append]

/-- **An object is a bracket and a block** of its fields. -/
theorem prettyChars_object (depth : Nat) (fields : List (String × Json)) :
    prettyChars depth (object fields) =
      '{' :: block depth '}' true (fields.map (fieldChars (depth + 1))) := by
  cases fields with
  | nil => rw [prettyChars, List.map_nil, block]
  | cons field fields => simp [prettyChars, block, prettyFields_append]

/-! ### Readers -/

/-- **A reader** as a relation: with some fuel, what it reads off the front of a text and what it
leaves behind that. -/
abbrev Reader (α : Type) : Type := (fuel : Nat) → List Char → α → List Char → Prop

section Readers

variable {α : Type} {reader : Reader α} {close : Char} {fuel level : Nat} {first : Bool}
  {rest : List Char}

/-- **A reader takes characters for something**, up to their end and whatever follows, in a block
that is closed by some bracket. -/
structure Reader.Takes (reader : Reader α) (close : Char) (chars : List Char) (a : α) : Prop where
  begins : Begins close chars
  reads : ∀ fuel rest, chars.length ≤ fuel → EndsNumber rest → reader fuel (chars ++ rest) a rest

theorem Reader.Takes.of_cons {c : Char} {more : List Char} {a : α} (hspace : isSpace c = false)
    (hclose : c ≠ close) (h : ∀ fuel rest, more.length ≤ fuel → EndsNumber rest →
      reader (fuel + 1) (c :: (more ++ rest)) a rest) : reader.Takes close (c :: more) a where
  begins := ⟨c, more, rfl, hspace, hclose⟩
  reads fuel rest hfuel hrest := by
    rw [List.length_cons] at hfuel
    obtain ⟨fuel, rfl⟩ := Nat.exists_eq_succ_of_ne_zero (by omega : fuel ≠ 0)
    exact h fuel rest (by omega) hrest

/-- **A loop over a block**: it is over where the next thing is the end of the block, and where it
is an item, the reader reads that and the loop goes on behind it. -/
structure Reader.IsLoop (reader : Reader α) (close : Char) (atEnd missing : Fault)
    (loop : Nat → Bool → List Char → List α → List Char → Prop) : Prop where
  ends : ∀ {fuel first cs rest}, nextItem first close atEnd missing cs = .ok (false, rest) →
    loop (fuel + 1) first cs [] rest
  goesOn : ∀ {fuel first cs item behind rest a as},
    nextItem first close atEnd missing cs = .ok (true, item) → reader fuel item a behind →
      loop fuel false behind as rest → loop (fuel + 1) first cs (a :: as) rest

/-- **A loop reads a block** item by item, if the reader takes each for what it was laid out from.
The length of the block is fuel enough. -/
theorem Reader.IsLoop.block {atEnd missing : Fault}
    {loop : Nat → Bool → List Char → List α → List Char → Prop} {chars : α → List Char}
    {as : List α}
    (hloop : reader.IsLoop close atEnd missing loop) (hclose : isSpace close = false)
    (hcomma : close ≠ ',') (h : ∀ a ∈ as, reader.Takes close (chars a) a)
    (hfuel : (block level close first (as.map chars)).length ≤ fuel) (rest : List Char) :
    loop fuel first (block level close first (as.map chars) ++ rest) as rest := by
  induction as generalizing first fuel with
  | nil =>
    have hpos := length_block_pos level close first ([].map chars)
    obtain ⟨fuel, rfl⟩ := Nat.exists_eq_succ_of_ne_zero (by omega : fuel ≠ 0)
    exact hloop.ends (nextItem_block_nil atEnd missing hclose level rest)
  | cons a as ih =>
    have ha := h a List.mem_cons_self
    have hlength := length_block_cons level close first (chars a) (as.map chars)
    rw [List.map_cons] at hfuel ⊢
    obtain ⟨fuel, rfl⟩ := Nat.exists_eq_succ_of_ne_zero (by omega : fuel ≠ 0)
    -- the item and what is left behind it are together shorter than the block, so that what is
    -- left of the fuel is enough for either
    have hitem := ha.reads fuel _ (by omega) (endsNumber_block level close (as.map chars) rest)
    have hothers := ih (fun b hb => h b (List.mem_cons_of_mem a hb))
      (by omega : (Json.block level close false _).length ≤ fuel)
    exact hloop.goesOn (nextItem_block_cons atEnd missing hcomma ha.begins level _ rest) hitem
      hothers

/-! #### Fields -/

/-- The reader of a field, given a reader of its value. -/
def Reader.field (reader : Reader Json) : Reader (String × Json) := fun fuel cs field rest =>
  ∃ behind, fieldName cs = .ok (field.1, behind) ∧ reader fuel behind field.2 rest

theorem fieldName_quote (name : String) (rest : List Char) :
    fieldName (quote name ++ ':' :: rest) = .ok (name, rest) := by
  have hcolon : skipSpace (':' :: rest) = ':' :: rest := skipSpace_cons rfl rest
  simp [fieldName, quote, textBody_escape, hcolon]

/-- **A field is read again** if its value is, behind a blank. -/
theorem Reader.Takes.field {reader : Reader Json} {field : String × Json}
    (h : reader.Takes ']' (prettyChars level field.2) field.2)
    (hblank : ∀ fuel cs rest, reader (fuel + 1) cs field.2 rest →
      reader (fuel + 1) (' ' :: cs) field.2 rest) :
    reader.field.Takes '}' (fieldChars level field) field where
  begins := ⟨'\x22', _, rfl, rfl, by decide⟩
  reads fuel rest hfuel hrest := by
    have hname : fieldName (fieldChars level field ++ rest) =
        .ok (field.1, ' ' :: (prettyChars level field.2 ++ rest)) := by
      rw [fieldChars, List.append_assoc, List.cons_append, List.cons_append, fieldName_quote]
    rw [fieldChars, List.length_append, List.length_cons, List.length_cons] at hfuel
    obtain ⟨fuel, rfl⟩ := Nat.exists_eq_succ_of_ne_zero (by omega : fuel ≠ 0)
    exact ⟨_, hname, hblank fuel _ rest (h.reads _ rest (by omega) hrest)⟩

end Readers

/-! ### Values -/

/-- **A value that can be read again**, with so many levels of lists and objects allowed: its
numbers are whole and held by 64 bits. -/
inductive Plain : (depth : Nat) → Json → Prop
  | null {depth : Nat} : Plain depth null
  | bool {depth : Nat} (b : Bool) : Plain depth (bool b)
  | int {depth : Nat} {n : Int} (hn : Bits.holdsEither 64 n = true) : Plain depth (int n)
  | text {depth : Nat} (s : String) : Plain depth (text s)
  | list {depth : Nat} {items : List Json} (h : ∀ j ∈ items, Plain depth j) :
      Plain (depth + 1) (list items)
  | object {depth : Nat} {fields : List (String × Json)}
      (h : ∀ field ∈ fields, Plain depth field.2) : Plain (depth + 1) (object fields)

/-- The reader of values, with so many levels of lists and objects allowed. -/
def values (depth : Nat) : Reader Json := fun fuel cs j rest => value fuel depth cs = .ok (j, rest)

section Values

variable {depth fuel level : Nat} {chars more rest : List Char} {c : Char} {j : Json}

theorem skipSpace_blank (cs : List Char) : skipSpace (' ' :: cs) = skipSpace cs :=
  List.dropWhile_cons_of_pos rfl

theorem values_blank (fuel : Nat) (cs rest : List Char) (h : values depth (fuel + 1) cs j rest) :
    values depth (fuel + 1) (' ' :: cs) j rest := by
  rw [values, value] at h ⊢
  rwa [skipSpace_blank]

/-! #### Words, numbers and texts -/

theorem takes_null : (values depth).Takes ']' (prettyChars level null) null :=
  .of_cons rfl (by decide) fun _ _ _ _ => by
    simp [values, value, skipSpace, isSpace, word, Except.map]

theorem takes_bool (b : Bool) : (values depth).Takes ']' (prettyChars level (bool b)) (bool b) := by
  cases b <;> exact .of_cons rfl (by decide) fun _ _ _ _ => by
    simp [values, value, skipSpace, isSpace, word, Except.map]

theorem takes_text (s : String) :
    (values depth).Takes ']' (prettyChars level (text s)) (text s) := by
  refine .of_cons rfl (by decide) fun fuel rest _ _ => ?_
  simp [values, value, skipSpace, isSpace, textBody_escape, Except.map]

theorem isSpace_of_isDigit {c : Char} (hc : c.isDigit = true) : isSpace c = false := by
  simp [isSpace, Text.ne_of_isDigit hc (d := ' ') rfl, Text.ne_of_isDigit hc (d := '\n') rfl,
    Text.ne_of_isDigit hc (d := '\t') rfl, Text.ne_of_isDigit hc (d := '\r') rfl]

theorem value_digit (hc : c.isDigit = true) (fuel depth : Nat) (cs : List Char) :
    value (fuel + 1) depth (c :: cs) = number false (c :: cs) := by
  rw [value, skipSpace_cons (isSpace_of_isDigit hc)]
  simp [hc, Text.ne_of_isDigit hc (d := 'n') rfl, Text.ne_of_isDigit hc (d := 't') rfl,
    Text.ne_of_isDigit hc (d := 'f') rfl, Text.ne_of_isDigit hc (d := '-') rfl]

theorem whole_negative {n : Nat} (hpos : 0 < n) (hn : n ≤ 2 ^ 63) (rest : List Char) :
    whole true n 0 rest = .ok (.int (-n), rest) := by
  have hheld : Bits.holdsSigned 64 (-n) = true := Bits.holdsSigned_iff.mpr (by omega)
  simp [whole, hheld, hpos]

theorem takes_int {n : Int} (hn : Bits.holdsEither 64 n = true) :
    (values depth).Takes ']' (prettyChars level (int n)) (int n) := by
  obtain ⟨hleast, hgreatest⟩ := Bits.holdsEither_64_iff.mp hn
  cases n with
  | ofNat m =>
    have hm : m < 2 ^ 64 := Int.ofNat_lt.mp hgreatest
    have hchars : prettyChars level (int (.ofNat m)) = Nat.toDigits 10 m :=
      Text.toList_toString m
    have hspells := Text.spells_toDigits m
    have hfront := Text.toDigits_front m
    rw [hchars]
    generalize Nat.toDigits 10 m = digits at *
    obtain ⟨c, more, rfl⟩ := List.exists_cons_of_ne_nil hspells.ne_nil
    have hc : c.isDigit = true := hspells.isDigit c List.mem_cons_self
    refine .of_cons (isSpace_of_isDigit hc) (Text.ne_of_isDigit hc rfl) fun fuel rest _ hrest => ?_
    rw [values, value_digit hc, ← List.cons_append, number_spells hspells hm hfront false hrest]
    rfl
  | negSucc m =>
    have hm : m + 1 ≤ 2 ^ 63 := by omega
    have hchars : prettyChars level (int (.negSucc m)) = '-' :: Nat.toDigits 10 (m + 1) := by
      have hsign : toString (Int.negSucc m) = "-" ++ toString (m + 1) := rfl
      rw [prettyChars, renderChars, hsign, String.toList_append, Text.toList_toString]
      rfl
    rw [hchars]
    refine .of_cons rfl (by decide) fun fuel rest _ hrest => ?_
    have hnumber : number true (Nat.toDigits 10 (m + 1) ++ rest) =
        .ok (.int (.negSucc m), rest) := by
      rw [number_spells (Text.spells_toDigits (m + 1)) (by omega) (Text.toDigits_front _) true hrest,
        whole_negative m.succ_pos hm]
      rfl
    simp [values, value, skipSpace, isSpace, hnumber]

/-! #### Lists and objects -/

theorem isLoop_items (depth : Nat) :
    (values depth).IsLoop ']' .endInList .expectedCommaOrBracket fun fuel first cs js rest =>
      items fuel depth first cs = .ok (js, rest) where
  ends h := by simp [items, h]
  goesOn h hvalue hitems := by
    rw [values] at hvalue
    simp [items, h, hvalue, hitems, Except.map]

theorem isLoop_fields (depth : Nat) :
    (values depth).field.IsLoop '}' .endInObject .expectedCommaOrBrace fun fuel first cs fs rest =>
      fields fuel depth first cs = .ok (fs, rest) where
  ends h := by simp [fields, h]
  goesOn h hfield hfields := by
    obtain ⟨behind, hname, hvalue⟩ := hfield
    rw [values] at hvalue
    simp [fields, h, hname, hvalue, hfields, Except.map]

/-- **A plain value is read again** as what it was printed from, however far in it stands. -/
theorem Plain.takes (h : Plain depth j) (level : Nat) :
    (values depth).Takes ']' (prettyChars level j) j := by
  induction h generalizing level with
  | null => exact takes_null
  | bool b => exact takes_bool b
  | int hn => exact takes_int hn
  | text s => exact takes_text s
  | @list depth _ _ ih =>
    rw [prettyChars_list]
    refine .of_cons rfl (by decide) fun fuel rest hfuel _ => ?_
    have hitems := (isLoop_items depth).block rfl (by decide) (fun j hj => ih j hj (level + 1))
      hfuel rest
    simp [values, value, skipSpace, isSpace, hitems, Except.map]
  | @object depth _ _ ih =>
    rw [prettyChars_object]
    refine .of_cons rfl (by decide) fun fuel rest hfuel _ => ?_
    have hfields := (isLoop_fields depth).block rfl (by decide)
      (fun field hfield => (ih field hfield (level + 1)).field values_blank) hfuel rest
    simp [values, value, skipSpace, isSpace, hfields, Except.map]

/-- **What was printed is read as what it was printed from.** -/
theorem parse_pretty (h : Plain maxDepth j) : parse j.pretty = .ok j := by
  have hreads := (h.takes 0).reads (2 * (j.prettyChars 0).length + 2) [] (by omega) nofun
  rw [List.append_nil, values] at hreads
  rw [parse, pretty, String.toList_ofList, document, hreads]
  rfl

end Values

end Rollout.Json
