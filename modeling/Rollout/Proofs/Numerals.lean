import Mathlib.Data.List.Basic
import Mathlib.Tactic.IntervalCases
import Rollout.Json.Parser
import Rollout.Proofs.Reading

/-!
# Numerals

A number that is written out spells itself, with leading zeros and without, and digits that spell a
number are read as that number.

* `Rollout.Text.spells_toDigits` – the numeral of a number spells it;
* `Rollout.Duration.spells_padded`, `Rollout.Duration.length_padded` – so does the numeral of a
  given width, if the number is no wider than that;
* `Rollout.Json.number_spells` – digits that spell a number of at most 64 bits, with no zero in
  front, are read to their end, and as what they spell.
-/

namespace Rollout

/-! ### Writing -/

namespace Text

variable {digits : List Char} {n : Nat}

theorem isDigit_digitChar {d : Nat} (h : d < 10) :
    d.digitChar.isDigit = true ∧ d.digitChar.toNat - 48 = d := by
  interval_cases d <;> decide

theorem toList_toString (n : Nat) : (toString n).toList = Nat.toDigits 10 n := by
  rw [Nat.toString_eq_ofList_toDigits, String.toList_ofList]

/-- **The numeral of a number spells it.** -/
theorem spells_toDigits (n : Nat) : Spells (Nat.toDigits 10 n) n := by
  induction n using Nat.strongRecOn with
  | ind n ih =>
    by_cases hn : n < 10
    · obtain ⟨hdigit, hvalue⟩ := isDigit_digitChar hn
      rw [Nat.toDigits_of_lt_base hn]
      simpa only [hvalue] using Spells.digit hdigit
    · obtain ⟨hdigit, hvalue⟩ := isDigit_digitChar (Nat.mod_lt n (by decide : 10 > 0))
      rw [Nat.toDigits_of_base_le (by decide) (Nat.le_of_not_lt hn)]
      have hmore := (ih (n / 10) (by omega)).more hdigit
      rwa [hvalue, Nat.div_add_mod'] at hmore

/-- A number but zero has no zero in front. -/
theorem head?_toDigits (hn : n ≠ 0) : (Nat.toDigits 10 n).head? ≠ some '0' := by
  induction n using Nat.strongRecOn with
  | ind n ih =>
    by_cases hlt : n < 10
    · rw [Nat.toDigits_of_lt_base hlt]
      interval_cases n
      · exact absurd rfl hn
      all_goals decide
    · rw [Nat.toDigits_of_base_le (by decide) (Nat.le_of_not_lt hlt),
        List.head?_append_of_ne_nil _ Nat.toDigits_ne_nil]
      exact ih (n / 10) (by omega) (by omega)

/-- A numeral has a zero in front only if there is nothing else. -/
theorem toDigits_front (n : Nat) (h : (Nat.toDigits 10 n).head? = some '0') :
    Nat.toDigits 10 n = ['0'] := by
  rcases eq_or_ne n 0 with rfl | hn
  · rfl
  · exact absurd h (head?_toDigits hn)

theorem spells_replicate_zero (k : Nat) : Spells (List.replicate (k + 1) '0') 0 := by
  induction k with
  | zero => exact .digit rfl
  | succ k ih =>
    rw [List.replicate_succ']
    exact ih.more rfl

/-- Zeros in front do not count. -/
theorem Spells.replicate_zero (h : Spells digits n) (k : Nat) :
    Spells (List.replicate k '0' ++ digits) n := by
  induction h with
  | @digit c hc =>
    cases k with
    | zero => exact .digit hc
    | succ k => simpa using (spells_replicate_zero k).more hc
  | more _ hc ih =>
    rw [← List.append_assoc]
    exact ih.more hc

end Text

namespace Duration

variable {width n : Nat}

theorem toList_padded (width n : Nat) : (padded width n).toList =
    List.replicate (width - (Nat.toDigits 10 n).length) '0' ++ Nat.toDigits 10 n := by
  rw [padded, String.toList_append, String.toList_ofList, ← String.length_toList,
    Text.toList_toString]

theorem spells_padded (width n : Nat) : Text.Spells (padded width n).toList n := by
  rw [toList_padded]
  exact (Text.spells_toDigits n).replicate_zero _

theorem length_padded (hwidth : 0 < width) (h : n < 10 ^ width) :
    (padded width n).toList.length = width := by
  have hle := (Nat.length_toDigits_le_iff (by decide) hwidth).mpr h
  rw [toList_padded, List.length_append, List.length_replicate]
  omega

end Duration

/-! ### Sizes -/

namespace Bits

variable {bits : Nat} {n : Int}

theorem holds_iff : holds bits n = true ↔ 0 ≤ n ∧ n < 2 ^ bits := by
  have hpow : (Nat.pow 2 bits : Int) = 2 ^ bits := by norm_cast
  rw [holds, Bool.and_eq_true, decide_eq_true_eq, decide_eq_true_eq, hpow]

theorem holdsSigned_iff :
    holdsSigned bits n = true ↔ -2 ^ (bits - 1) ≤ n ∧ n < 2 ^ (bits - 1) := by
  have hpow : (Nat.pow 2 (bits - 1) : Int) = 2 ^ (bits - 1) := by norm_cast
  rw [holdsSigned, Bool.and_eq_true, decide_eq_true_eq, decide_eq_true_eq, hpow]

/-- The whole numbers that a Json value can have. -/
theorem holdsEither_64_iff : holdsEither 64 n = true ↔ -2 ^ 63 ≤ n ∧ n < 2 ^ 64 := by
  rw [holdsEither, Bool.or_eq_true, holds_iff, holdsSigned_iff]
  omega

end Bits

/-! ### Reading -/

theorem Text.ne_of_isDigit {c d : Char} (hc : c.isDigit = true) (hd : d.isDigit = false) :
    c ≠ d := by
  rintro rfl
  rw [hc] at hd
  cases hd

/-- Digits are read up to what is none. -/
theorem Text.span_digits {digits rest : List Char} (hdigits : ∀ c ∈ digits, c.isDigit = true)
    (hrest : ∀ c ∈ rest.head?, c.isDigit = false) :
    (digits ++ rest).takeWhile Char.isDigit = digits ∧
      (digits ++ rest).dropWhile Char.isDigit = rest := by
  rw [List.takeWhile_append_of_pos hdigits, List.dropWhile_append_of_pos hdigits]
  cases rest with
  | nil => simp
  | cons c rest => simp [hrest c rfl]

namespace Json

variable {digits rest : List Char} {n : Nat}

/-- **What may stand behind a number**: nothing that would be read as more of it. -/
def EndsNumber (rest : List Char) : Prop :=
  ∀ c ∈ rest.head?, c.isDigit = false ∧ c ≠ '.' ∧ c ≠ 'e' ∧ c ≠ 'E'

theorem heldDigits_append {m : Nat} (h : heldDigits m digits = (n, [])) (more : List Char) :
    heldDigits m (digits ++ more) = heldDigits n more := by
  induction digits generalizing m with
  | nil =>
    obtain rfl : m = n := congrArg Prod.fst h
    rfl
  | cons c digits ih =>
    rw [heldDigits] at h
    rw [List.cons_append, heldDigits]
    split at h
    · rename_i hheld
      rw [if_pos hheld]
      exact ih h
    · cases h

/-- Of digits that spell a number of at most 64 bits none is left over. -/
theorem heldDigits_spells (h : Text.Spells digits n) (hn : n < 2 ^ 64) :
    heldDigits 0 digits = (n, []) := by
  have hone {m : Nat} {c : Char} (hm : m * 10 + (c.toNat - 48) < 2 ^ 64) :
      heldDigits m [c] = (m * 10 + (c.toNat - 48), []) := by
    have hheld : Bits.holds 64 (m * 10 + digitValue c : Nat) = true :=
      Configuration.holds_64_iff.mpr hm
    rw [heldDigits, if_pos hheld]
    rfl
  induction h with
  | digit hc => simpa using hone (m := 0) (by omega)
  -- no start of the digits spells more than all of them
  | more _ _ ih => rw [heldDigits_append (ih (by omega)), hone hn]

/-- **Digits are read as the number that they spell**, up to their end. -/
theorem number_spells (h : Text.Spells digits n) (hn : n < 2 ^ 64)
    (hfront : digits.head? = some '0' → digits = ['0']) (negative : Bool)
    (hrest : EndsNumber rest) : number negative (digits ++ rest) = whole negative n 0 rest := by
  have hheld := heldDigits_spells h hn
  have hdigits := h.isDigit
  obtain ⟨c, more, rfl⟩ := List.exists_cons_of_ne_nil h.ne_nil
  obtain ⟨htake, hdrop⟩ := Text.span_digits (fun d hd => hdigits d (List.mem_cons_of_mem c hd))
    fun d hd => (hrest d hd).1
  have hc : c.isDigit = true := hdigits c List.mem_cons_self
  -- a zero in front is all there is
  have hspan : (if c = '0' then [c] else c :: (more ++ rest).takeWhile Char.isDigit) = c :: more ∧
      (if c = '0' then more ++ rest else (more ++ rest).dropWhile Char.isDigit) = rest := by
    rw [htake, hdrop]
    by_cases hzero : c = '0'
    · obtain rfl : more = [] := by simpa [hzero] using hfront
      simp [hzero]
    · simp [hzero]
  rw [List.cons_append, number, if_neg (by simp [hc]), hspan.1, hspan.2]
  -- the match is split and not reduced, since reducing it would count up to the limit of 64 bits
  extract_lets read after
  split
  rename_i m left hread
  obtain ⟨rfl, rfl⟩ := Prod.mk.inj (hread.symm.trans hheld)
  rw [List.length_nil]
  cases rest with
  | nil => rfl
  | cons d rest =>
    obtain ⟨hdigit, hpoint, he, hE⟩ := hrest d rfl
    simp [after, hdigit]

end Json

end Rollout
