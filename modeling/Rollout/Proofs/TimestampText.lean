import Rollout.Timestamp.Text
import Rollout.Proofs.Numerals

/-!
# Reading a timestamp that was written

The reader of timestamps takes more than is ever written, so that its many choices have to fall as
they did when the text was written: a year has four digits or a sign, the other numbers have two,
the decimals end where the zone begins, and the zone is none to count with.

A timestamp is read again if it is a point in time (`Rollout.Timestamp.IsPoint`), be its second the
sixtieth of its minute or its year one of five digits. The main statement is
`Rollout.Timestamp.parse?_text`.
-/

namespace Rollout.Timestamp

variable {digits rest : List Char} {n width : Nat} {c : Char}

/-- **A point in time**: there is such a day, and such a time of day. -/
structure IsPoint (t : Timestamp) : Prop where
  date : isDate t.year t.month t.day = true
  hour : t.hour < 24
  minute : t.minute < 60
  second : t.second ≤ 60
  nanos : t.nanos < 10 ^ 9

/-! ### Numbers -/

theorem isBlank_of_isDigit (hc : c.isDigit = true) : Text.isBlank c = false := by
  have hrange : 48 ≤ c.toNat ∧ c.toNat ≤ 57 := by
    simpa [Char.isDigit, UInt32.le_iff_toNat_le] using hc
  rw [Text.isBlank, Bool.eq_false_iff]
  simp only [ne_eq, Bool.or_eq_true, Bool.and_eq_true, decide_eq_true_eq, beq_iff_eq]
  omega

theorem dropBlanks_spells (h : Text.Spells digits n) (rest : List Char) :
    Text.dropBlanks (digits ++ rest) = digits ++ rest := by
  obtain ⟨c, more, rfl⟩ := List.exists_cons_of_ne_nil h.ne_nil
  refine Text.dropBlanks_eq_self fun d hd => ?_
  obtain rfl : c = d := Option.some.inj hd
  exact isBlank_of_isDigit (h.isDigit c List.mem_cons_self)

/-- **A number of the full width** is read, and no more than that. -/
theorem number?_spells (h : Text.Spells digits n) (hlength : digits.length = width)
    (rest : List Char) : number? width (digits ++ rest) = some (n, rest) := by
  have hdigits : (digits ++ rest).take width = digits := by
    rw [← hlength, List.take_left]
  have hall : digits.takeWhile Char.isDigit = digits :=
    List.takeWhile_eq_self_iff.mpr h.isDigit
  rw [number?, dropBlanks_spells h]
  simp only [hdigits, hall, Text.digitsValue?_eq_some_iff.mpr h, List.drop_left, Option.map_some]

theorem number?_padded (hwidth : 0 < width) (hn : n < 10 ^ width) (rest : List Char) :
    number? width ((Duration.padded width n).toList ++ rest) = some (n, rest) :=
  number?_spells (Duration.spells_padded width n) (Duration.length_padded hwidth hn) rest

theorem after?_cons (hc : Text.isBlank c = false) (rest : List Char) :
    after? c (c :: rest) = some rest := by
  have hdrop : Text.dropBlanks (c :: rest) = c :: rest := List.dropWhile_cons_of_neg (by simp [hc])
  simp [after?, hdrop]

/-! ### Years -/

/-- A year behind a sign is read up to its last digit. -/
theorem year?_signed {sign : Char} (hsign : sign = '-' ∨ sign = '+') (h : Text.Spells digits n)
    (hrest : ∀ c ∈ rest.head?, c.isDigit = false) :
    year? (sign :: (digits ++ rest)) = some (if sign = '-' then -(n : Int) else n, rest) := by
  have hspan := (Text.span_digits h.isDigit hrest).1
  have hvalue := Text.digitsValue?_eq_some_iff.mpr h
  rcases hsign with rfl | rfl
  · have hdrop : Text.dropBlanks ('-' :: (digits ++ rest)) = '-' :: (digits ++ rest) := rfl
    simp [year?, hdrop, hspan, hvalue]
  · have hdrop : Text.dropBlanks ('+' :: (digits ++ rest)) = '+' :: (digits ++ rest) := rfl
    simp [year?, hdrop, hspan, hvalue]

/-- A year of four digits is read without a sign. -/
theorem year?_digits (h : Text.Spells digits n) (hlength : digits.length = 4) (rest : List Char) :
    year? (digits ++ rest) = some ((n : Int), rest) := by
  have hnumber := number?_spells h hlength rest
  have hdrop := dropBlanks_spells h rest
  have hdigits := h.isDigit
  obtain ⟨c, more, rfl⟩ := List.exists_cons_of_ne_nil h.ne_nil
  have hc : c.isDigit = true := hdigits c List.mem_cons_self
  have hminus : c ≠ '-' := Text.ne_of_isDigit hc rfl
  have hplus : c ≠ '+' := Text.ne_of_isDigit hc rfl
  rw [List.cons_append] at hnumber hdrop ⊢
  simp [year?, hdrop, hminus, hplus, hnumber]

/-- **A year is read again**, with a sign or without. -/
theorem year?_yearText (y : Int) (hrest : ∀ c ∈ rest.head?, c.isDigit = false) :
    year? ((yearText y).toList ++ rest) = some (y, rest) := by
  unfold yearText
  split_ifs with hfour hnegative
  · have hlength : (Duration.padded 4 y.toNat).toList.length = 4 :=
      Duration.length_padded (by decide) (by omega)
    rw [year?_digits (Duration.spells_padded 4 y.toNat) hlength, Int.toNat_of_nonneg hfour.1]
  · have hyear := year?_signed (.inl rfl) (Duration.spells_padded 4 y.natAbs) hrest
    rw [String.toList_append]
    simpa [show -|y| = y by rw [abs_of_neg hnegative, neg_neg]] using hyear
  · have hyear := year?_signed (.inr rfl) (Duration.spells_padded 4 y.natAbs) hrest
    rw [String.toList_append]
    simpa [abs_of_nonneg (not_lt.mp hnegative)] using hyear

/-! ### Decimals -/

theorem decimals?_padded (hwidth : 0 < width) (hle : width ≤ 9) (hn : n < 10 ^ width)
    (rest : List Char) : decimals? (("." ++ Duration.padded width n).toList ++ 'Z' :: rest) =
      some (n * 10 ^ (9 - width), 'Z' :: rest) := by
  have hspells := Duration.spells_padded width n
  have hlength := Duration.length_padded hwidth hn
  have hspan : ((Duration.padded width n).toList ++ 'Z' :: rest).takeWhile Char.isDigit =
      (Duration.padded width n).toList := (Text.span_digits hspells.isDigit (by simp)).1
  have hnine : (Duration.padded width n).toList.take 9 = (Duration.padded width n).toList :=
    List.take_of_length_le (by omega)
  rw [String.toList_append]
  generalize (Duration.padded width n).toList = digits at *
  simp [decimals?, hspan, hnine, hlength, Text.digitsValue?_eq_some_iff.mpr hspells]

/-- **The decimals of a second are read again**, up to the zone. -/
theorem decimals?_decimals {nanos : Nat} (h : nanos < 10 ^ 9) (rest : List Char) :
    decimals? ((decimals nanos).toList ++ 'Z' :: rest) = some (nanos, 'Z' :: rest) := by
  unfold decimals
  split_ifs with hzero hmillis hmicros
  · subst hzero
    rfl
  · rw [decimals?_padded (by decide) (by decide) (by omega)]
    congr 2
    omega
  · rw [decimals?_padded (by decide) (by decide) (by omega)]
    congr 2
    omega
  · rw [decimals?_padded (by decide) (by decide) h]
    congr 2
    omega

/-! ### Dates and times -/

theorem daysInMonth_le (y : Int) (m : Nat) : daysInMonth y m ≤ 31 := by
  unfold daysInMonth
  split_ifs <;> decide

/-- **A date is read again.** -/
theorem date?_append {y : Int} {m d : Nat} (h : isDate y m d = true) (rest : List Char) :
    date? ((yearText y).toList ++ '-' :: ((Duration.padded 2 m).toList ++
      '-' :: ((Duration.padded 2 d).toList ++ rest))) = some ((y, m, d), rest) := by
  have hdays := daysInMonth_le y m
  have hbounds : m ≤ 12 ∧ d ≤ daysInMonth y m := by
    simp only [isDate, Bool.and_eq_true, decide_eq_true_eq] at h
    exact ⟨h.1.1.2, h.2⟩
  have hdash : Text.isBlank '-' = false := by decide
  rw [date?, year?_yearText y (by simp)]
  simp [after?_cons hdash, number?_padded (by decide : 0 < 2) (by omega : m < 10 ^ 2),
    number?_padded (by decide : 0 < 2) (by omega : d < 10 ^ 2), h]

/-- **A time of day is read again.** -/
theorem time?_append {t : Timestamp} (h : t.IsPoint) (rest : List Char) :
    time? ((Duration.padded 2 t.hour).toList ++ ':' :: ((Duration.padded 2 t.minute).toList ++
      ':' :: ((Duration.padded 2 t.second).toList ++ ((decimals t.nanos).toList ++ 'Z' :: rest)))) =
        some ((t.hour, t.minute, t.second, t.nanos), 'Z' :: rest) := by
  obtain ⟨-, hhour, hminute, hsecond, hnanos⟩ := h
  have htwo {n : Nat} (hn : n < 100) (rest : List Char) :=
    number?_padded (by decide : 0 < 2) hn rest
  have hcolon : Text.isBlank ':' = false := by decide
  rw [time?, htwo (by omega)]
  simp [after?_cons hcolon, htwo (by omega : t.minute < 100), htwo (by omega : t.second < 100),
    decimals?_decimals hnanos, hhour, hminute, hsecond]

/-- **A timestamp is read again** as what it was written from. -/
theorem parse?_text {t : Timestamp} (h : t.IsPoint) : parse? t.text = some t := by
  have hchars : t.text.toList = (yearText t.year).toList ++ '-' ::
      ((Duration.padded 2 t.month).toList ++ '-' :: ((Duration.padded 2 t.day).toList ++ 'T' ::
        ((Duration.padded 2 t.hour).toList ++ ':' :: ((Duration.padded 2 t.minute).toList ++ ':' ::
          ((Duration.padded 2 t.second).toList ++ ((decimals t.nanos).toList ++ ['Z'])))))) := by
    simp [text]
  have hblank : Text.dropBlanks ['Z'] = ['Z'] := by decide
  have hzone : zone? ['Z'] = some (0, []) := by decide
  -- the time lies in no other zone, so it is not moved
  have hmoved : addMinutes ⟨t.year, t.month, t.day, t.hour, t.minute, t.second, t.nanos⟩ (-0) = t :=
    rfl
  rw [parse?, hchars, date?_append h.date]
  simp only [Option.bind_eq_bind, Option.bind_some, true_or, if_true, time?_append h, hblank, hzone,
    hmoved]
  exact if_pos ⟨rfl, h.date⟩

end Rollout.Timestamp
