import Mathlib.Algebra.Ring.Nat
import Mathlib.Data.List.Induction
import Mathlib.Data.List.TakeWhile
import Rollout.Proofs.Validation

/-!
# What is read of a variable

The check of an environment reads it through three small functions: one trims the text of a
variable, one compares a value with samples, and one reads a whole number. This file says what they
read without them.

* A variable is *set to* the text between the blanks at the ends of its own
  (`Rollout.Environment.SetTo`), and is *unset* where there is no such text: where it is not defined,
  where it is no text, and where it is blank (`Rollout.Environment.Unset`).
* Digits *spell* a number (`Rollout.Text.Spells`), and a value is a *positive number* if its digits,
  which may stand behind a plus sign, spell one above zero that 64 bits hold
  (`Rollout.Configuration.PositiveNumber`).

The main statements are `Rollout.Configuration.setting?_eq_some_iff`,
`Rollout.Configuration.setting?_eq_none_iff` and `Rollout.Configuration.isPositive_eq_true_iff`.
-/

namespace Rollout

/-! ### Trimming -/

namespace Text

variable {cs core : List Char}

/-- **The core of a text**: what stands between the blanks at its ends. -/
structure IsCore (cs core : List Char) : Prop where
  within : ∃ front behind, cs = front ++ core ++ behind ∧
    (∀ c ∈ front, isBlank c = true) ∧ ∀ c ∈ behind, isBlank c = true
  first : ∀ c ∈ core.head?, isBlank c = false
  last : ∀ c ∈ core.getLast?, isBlank c = false

theorem dropBlanks_append_of_blank {front : List Char} (h : ∀ c ∈ front, isBlank c = true)
    (rest : List Char) : dropBlanks (front ++ rest) = dropBlanks rest :=
  List.dropWhile_append_of_pos h

/-- What begins with no blank has no leading blanks to drop. -/
theorem dropBlanks_eq_self (h : ∀ c ∈ cs.head?, isBlank c = false) : dropBlanks cs = cs := by
  cases cs with
  | nil => rfl
  | cons c rest =>
    have hc : ¬isBlank c = true := by
      rw [h c rfl]
      exact Bool.false_ne_true
    exact List.dropWhile_cons_of_neg hc

theorem head?_dropBlanks (cs : List Char) : ∀ c ∈ (dropBlanks cs).head?, isBlank c = false := by
  intro c hc
  have hnot := List.head?_dropWhile_not isBlank cs
  rw [show (cs.dropWhile isBlank).head? = some c from hc] at hnot
  exact hnot

/-- **Trimming finds the core of a text.** -/
theorem isCore_trimBlanks (cs : List Char) : IsCore cs (trimBlanks cs) where
  within := by
    refine ⟨cs.takeWhile isBlank, ((dropBlanks cs).reverse.takeWhile isBlank).reverse, ?_, ?_, ?_⟩
    · have hend : dropBlanksEnd (dropBlanks cs) ++
          ((dropBlanks cs).reverse.takeWhile isBlank).reverse = dropBlanks cs := by
        rw [dropBlanksEnd, ← List.reverse_append]
        exact List.reverse_eq_iff.mpr List.takeWhile_append_dropWhile
      rw [List.append_assoc, trimBlanks, hend]
      exact List.takeWhile_append_dropWhile.symm
    · exact fun c hc => List.mem_takeWhile_imp hc
    · exact fun c hc => List.mem_takeWhile_imp (List.mem_reverse.mp hc)
  first := by
    -- the end is trimmed behind the front, and leaves it as it is
    have hkept : dropBlanks (trimBlanks cs) = trimBlanks cs :=
      dropBlanks_dropBlanksEnd (dropBlanks_dropBlanks cs)
    rw [← hkept]
    exact head?_dropBlanks _
  last := by
    rw [trimBlanks, dropBlanksEnd, List.getLast?_reverse]
    exact head?_dropBlanks _

/-- A text has one core. -/
theorem IsCore.eq_trimBlanks (h : IsCore cs core) : core = trimBlanks cs := by
  obtain ⟨⟨front, behind, rfl, hfront, hbehind⟩, hfirst, hlast⟩ := h
  have hdrop : dropBlanks (front ++ core ++ behind) = dropBlanks (core ++ behind) := by
    rw [List.append_assoc, dropBlanks_append_of_blank hfront]
  rw [trimBlanks, hdrop]
  cases core with
  | nil =>
    have hnone : dropBlanks behind = [] := List.dropWhile_eq_nil_iff.mpr hbehind
    rw [List.nil_append, hnone]
    rfl
  | cons c rest =>
    have hfront : dropBlanks (c :: rest ++ behind) = c :: rest ++ behind :=
      dropBlanks_eq_self hfirst
    have hend : dropBlanks (c :: rest).reverse = (c :: rest).reverse :=
      dropBlanks_eq_self (by rwa [List.head?_reverse])
    rw [hfront, dropBlanksEnd, List.reverse_append,
      dropBlanks_append_of_blank fun d hd => hbehind d (List.mem_reverse.mp hd), hend,
      List.reverse_reverse]

/-- Of a blank text nothing is left. -/
theorem trimBlanks_eq_nil_iff : trimBlanks cs = [] ↔ ∀ c ∈ cs, isBlank c = true := by
  constructor
  · intro h
    obtain ⟨front, behind, hcs, hfront, hbehind⟩ := (isCore_trimBlanks cs).within
    rw [h, List.append_nil] at hcs
    rw [hcs]
    exact fun c hc => (List.mem_append.mp hc).elim (hfront c) (hbehind c)
  · intro h
    have hcore : IsCore cs [] := ⟨⟨cs, [], by simp, h, nofun⟩, nofun, nofun⟩
    exact hcore.eq_trimBlanks.symm

/-! ### Digits -/

/-- **Digits spell a number**, the first digit counting most. -/
inductive Spells : List Char → Nat → Prop
  | digit {c : Char} (hc : c.isDigit = true) : Spells [c] (c.toNat - 48)
  | more {digits : List Char} {n : Nat} {c : Char} (h : Spells digits n) (hc : c.isDigit = true) :
      Spells (digits ++ [c]) (n * 10 + (c.toNat - 48))

variable {digits : List Char} {n : Nat}

theorem Spells.ne_nil (h : Spells digits n) : digits ≠ [] := by
  cases h with
  | digit _ => exact nofun
  | more _ _ => simp

theorem Spells.isDigit (h : Spells digits n) : ∀ c ∈ digits, c.isDigit = true := by
  induction h with
  | digit hc =>
    intro d hd
    rwa [List.mem_singleton.mp hd]
  | more _ hc ih =>
    intro d hd
    rcases List.mem_append.mp hd with hd | hd
    · exact ih d hd
    · rwa [List.mem_singleton.mp hd]

/-- To the base ten the letters are no digits. -/
theorem hexValue?_lt_ten_iff {c : Char} {d : Nat} :
    hexValue? c = some d ∧ d < 10 ↔ c.isDigit = true ∧ d = c.toNat - 48 := by
  unfold hexValue?
  split
  · rename_i hc
    have hrange : 48 ≤ c.toNat ∧ c.toNat ≤ 57 := by
      simpa [Char.isDigit, UInt32.le_iff_toNat_le] using hc
    constructor
    · rintro ⟨h, -⟩
      exact ⟨hc, (Option.some.inj h).symm⟩
    · rintro ⟨-, rfl⟩
      exact ⟨rfl, by omega⟩
  · rename_i hc
    refine ⟨fun ⟨h, hd⟩ => ?_, fun h => absurd h.1 hc⟩
    have hletter (first : Char) (base : Nat) (hfirst : first ≤ c) (hbase : base + 10 ≤ first.toNat) :
        ¬c.toNat - base < 10 := by
      have hle : first.toNat ≤ c.toNat := hfirst
      omega
    split at h
    · rename_i hlower
      obtain rfl := Option.some.inj h
      exact absurd hd (hletter 'a' 87 hlower.1 (by decide))
    · split at h
      · rename_i hupper
        obtain rfl := Option.some.inj h
        exact absurd hd (hletter 'A' 55 hupper.1 (by decide))
      · cases h

/-- A number with one more digit. -/
theorem readDigit_eq_some_iff {m : Nat} {c : Char} :
    ((hexValue? c).bind fun d => if d < 10 then some (m * 10 + d) else none) = some n ↔
      c.isDigit = true ∧ n = m * 10 + (c.toNat - 48) := by
  rw [Option.bind_eq_some_iff]
  constructor
  · rintro ⟨d, hd, h⟩
    split at h
    · rename_i hlt
      obtain ⟨hc, rfl⟩ := hexValue?_lt_ten_iff.mp ⟨hd, hlt⟩
      exact ⟨hc, (Option.some.inj h).symm⟩
    · cases h
  · rintro ⟨hc, rfl⟩
    obtain ⟨hd, hlt⟩ := hexValue?_lt_ten_iff.mpr ⟨hc, rfl⟩
    exact ⟨_, hd, if_pos hlt⟩

theorem digitsValue?_singleton (c : Char) : digitsValue? 10 [c] =
    (hexValue? c).bind fun d => if d < 10 then some (0 * 10 + d) else none := by
  rw [digitsValue?, if_neg (by simp), List.foldlM_cons]
  simp

theorem digitsValue?_concat (hne : digits ≠ []) (c : Char) :
    digitsValue? 10 (digits ++ [c]) = (digitsValue? 10 digits).bind fun n =>
      (hexValue? c).bind fun d => if d < 10 then some (n * 10 + d) else none := by
  rw [digitsValue?, digitsValue?, if_neg (by simp), if_neg (by simpa using hne), List.foldlM_append]
  simp

/-- **The value of digits is the number that they spell**, if they spell one. -/
theorem digitsValue?_eq_some_iff :
    digitsValue? 10 digits = some n ↔ Spells digits n := by
  constructor
  · intro h
    induction digits using List.reverseRecOn generalizing n with
    | nil => cases h
    | append_singleton digits c ih =>
      rcases eq_or_ne digits [] with rfl | hne
      · rw [List.nil_append, digitsValue?_singleton, readDigit_eq_some_iff] at h
        obtain ⟨hc, rfl⟩ := h
        rw [Nat.zero_mul, Nat.zero_add]
        exact .digit hc
      · rw [digitsValue?_concat hne] at h
        obtain ⟨m, hm, h⟩ := Option.bind_eq_some_iff.mp h
        obtain ⟨hc, rfl⟩ := readDigit_eq_some_iff.mp h
        exact .more (ih hm) hc
  · intro h
    induction h with
    | digit hc =>
      rw [digitsValue?_singleton, readDigit_eq_some_iff]
      exact ⟨hc, by omega⟩
    | more h hc ih =>
      have hne := h.ne_nil
      rw [digitsValue?_concat hne, ih, Option.bind_some, readDigit_eq_some_iff]
      exact ⟨hc, rfl⟩

end Text

/-! ### Variables -/

namespace Environment

/-- **What a variable is set to.** -/
def SetTo (env : Environment) (name value : String) : Prop :=
  ∃ text, env name = .text text ∧ Text.IsCore text.toList value.toList ∧ value ≠ ""

/-- **A variable that is not set**: it is not defined, or is no text, or is blank. -/
inductive Unset (env : Environment) (name : String) : Prop
  | absent (h : env name = .absent)
  | notUnicode (h : env name = .notUnicode)
  | blank {text : String} (h : env name = .text text)
      (hblank : ∀ c ∈ text.toList, Text.isBlank c = true)

end Environment

namespace Configuration

variable {env : Environment} {name value : String}

/-- A variable is read as the value that it is set to. -/
theorem setting?_eq_some_iff : setting? env name = some value ↔ env.SetTo name value := by
  have hread : setting? env name = some value ↔
      ∃ text, env name = .text text ∧ Text.trim text = value ∧ value ≠ "" := by
    rw [setting?, Option.filter_eq_some_iff]
    cases h : env name with
    | absent => simp [Reading.text?]
    | notUnicode => simp [Reading.text?]
    | text s => simp [Reading.text?, and_comm]
  rw [hread]
  refine exists_congr fun text => and_congr_right fun _ => and_congr_left fun _ => ?_
  rw [Text.trim]
  constructor
  · rintro rfl
    rw [String.toList_ofList]
    exact Text.isCore_trimBlanks _
  · intro hcore
    rw [← hcore.eq_trimBlanks, String.ofList_toList]

/-- A variable is read as nothing exactly if it is not set. -/
theorem setting?_eq_none_iff : setting? env name = none ↔ env.Unset name := by
  have htrim (text : String) : Text.trim text = "" ↔ ∀ c ∈ text.toList, Text.isBlank c = true := by
    rw [Text.trim, ← String.toList_inj, String.toList_ofList]
    exact Text.trimBlanks_eq_nil_iff
  rw [setting?, Option.filter_eq_none_iff]
  cases h : env name with
  | absent =>
    refine ⟨fun _ => .absent h, fun _ value hvalue => ?_⟩
    cases hvalue
  | notUnicode =>
    refine ⟨fun _ => .notUnicode h, fun _ value hvalue => ?_⟩
    cases hvalue
  | text text =>
    constructor
    · intro hempty
      have hnone : Text.trim text = "" := by simpa [Reading.text?] using hempty
      exact .blank h ((htrim text).mp hnone)
    · rintro (hno | hno | ⟨hsome, hblank⟩)
      · rw [h] at hno
        cases hno
      · rw [h] at hno
        cases hno
      · rw [h] at hsome
        cases hsome
        simp [Reading.text?, (htrim text).mpr hblank]

/-! ### Values -/

/-- **Two texts of the same letters**: they differ at most in the case of the letters `a` to `z`. -/
def SameLetters (a b : String) : Prop := a.toList.map Char.toLower = b.toList.map Char.toLower

theorem isSample_eq_true_iff {samples : List String} :
    isSample samples value = true ↔ ∃ sample ∈ samples, SameLetters sample value := by
  simp [isSample, Text.sameIgnoringCase, SameLetters]

/-- **A value that is a positive number** of at most 64 bits: digits, perhaps behind a plus sign, that
spell a number above zero. -/
def PositiveNumber (value : String) : Prop :=
  ∃ digits n, (value.toList = digits ∨ value.toList = '+' :: digits) ∧ Text.Spells digits n ∧
    0 < n ∧ n < 2 ^ 64

theorem holds_64_iff {n : Nat} : Bits.holds 64 n = true ↔ n < 2 ^ 64 := by
  have hpow : (Nat.pow 2 64 : Int) = ((2 ^ 64 : Nat) : Int) := rfl
  rw [Bits.holds, Bool.and_eq_true, decide_eq_true_eq, decide_eq_true_eq, hpow, Int.ofNat_lt]
  exact and_iff_right (Int.natCast_nonneg n)

theorem wholeNumber?_eq_some_iff {n : Nat} : wholeNumber? value = some n ↔
    ∃ digits, (value.toList = digits ∨ value.toList = '+' :: digits) ∧ Text.Spells digits n ∧
      n < 2 ^ 64 := by
  have hread (digits : List Char) :
      (Text.digitsValue? 10 digits).filter (fun m : Nat => Bits.holds 64 m) = some n ↔
        Text.Spells digits n ∧ n < 2 ^ 64 := by
    rw [Option.filter_eq_some_iff, Text.digitsValue?_eq_some_iff, holds_64_iff]
  unfold wholeNumber?
  dsimp only
  split
  · rename_i rest hplus
    rw [hread, hplus]
    constructor
    · exact fun h => ⟨rest, .inr rfl, h⟩
    · rintro ⟨digits, rfl | hrest, hspells, hn⟩
      · -- a plus sign is no digit
        exact absurd (hspells.isDigit '+' List.mem_cons_self) (by decide)
      · obtain rfl := List.tail_eq_of_cons_eq hrest
        exact ⟨hspells, hn⟩
  · rename_i hplain
    rw [hread]
    constructor
    · exact fun h => ⟨_, .inl rfl, h⟩
    · rintro ⟨digits, rfl | hplus, h⟩
      · exact h
      · exact absurd hplus (hplain digits)

/-- **A value passes for a whole number above zero exactly if it is one.** -/
theorem isPositive_eq_true_iff : isPositive value = true ↔ PositiveNumber value := by
  rw [isPositive, Option.any_eq_true]
  constructor
  · rintro ⟨n, hn, hpos⟩
    obtain ⟨digits, hvalue, hspells, hlt⟩ := wholeNumber?_eq_some_iff.mp hn
    exact ⟨digits, n, hvalue, hspells, of_decide_eq_true hpos, hlt⟩
  · rintro ⟨digits, n, hvalue, hspells, hpos, hlt⟩
    exact ⟨n, wholeNumber?_eq_some_iff.mpr ⟨digits, hvalue, hspells, hlt⟩, decide_eq_true hpos⟩

end Configuration

end Rollout
