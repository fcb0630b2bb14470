/-!
# Finding and replacing

Whether a text holds another, replacement of every occurrence from left to right, and comparison
without regard to the case of the letters `a` to `z`.

Replacement looks for the next occurrence behind the last one, so occurrences that overlap are
replaced once, and what is put in is never searched again.
-/

namespace Rollout.Text

/-- Whether `needle` occurs in the characters. -/
def occursIn (needle : List Char) : List Char → Bool
  | [] => needle.isEmpty
  | c :: rest => needle.isPrefixOf (c :: rest) || occursIn needle rest

/-- Whether `s` holds `needle`; every text holds the empty one. -/
def contains (s needle : String) : Bool := occursIn needle.toList s.toList

/-- Replaces the occurrences of `find`, which is not empty, by `put`. The number counts the
characters of an occurrence already replaced that are still to be passed over. -/
def replaceFrom (find put : List Char) : Nat → List Char → List Char
  | _, [] => []
  | skip + 1, _ :: rest => replaceFrom find put skip rest
  | 0, c :: rest =>
    if find.isPrefixOf (c :: rest) then put ++ replaceFrom find put (find.length - 1) rest
    else c :: replaceFrom find put 0 rest

/-- Puts `put` before every character and at the end: the empty text occurs there. -/
def interleave (put : List Char) : List Char → List Char
  | [] => put
  | c :: rest => put ++ c :: interleave put rest

/-- Replaces every occurrence of `find` in the characters by `put`. -/
def replaceChars (find put cs : List Char) : List Char :=
  if find.isEmpty then interleave put cs else replaceFrom find put 0 cs

/-- Replaces every occurrence of `find` in `s` by `put`. -/
def replace (s find put : String) : String :=
  String.ofList (replaceChars find.toList put.toList s.toList)

/-- The text with the letters `A` to `Z` in lower case. -/
def lower (s : String) : String := String.ofList (s.toList.map Char.toLower)

/-- Equality up to the case of the letters `a` to `z`. -/
def sameIgnoringCase (a b : String) : Bool := a.toList.map Char.toLower == b.toList.map Char.toLower

/-! ### Laws -/

theorem occursIn_nil (cs : List Char) : occursIn [] cs = true := by
  cases cs <;> simp [occursIn]

/-- An occurrence is a place where the text splits around the needle. -/
theorem occursIn_iff (needle cs : List Char) :
    occursIn needle cs = true ↔ ∃ before after, cs = before ++ needle ++ after := by
  induction cs with
  | nil =>
    constructor
    · intro h
      have hn : needle = [] := by simpa [occursIn] using h
      exact ⟨[], [], by simp [hn]⟩
    · rintro ⟨before, after, h⟩
      have hn : needle = [] := by
        have hlen := congrArg List.length h
        simp only [List.length_nil, List.length_append] at hlen
        exact List.length_eq_zero_iff.1 (by omega)
      simp [occursIn, hn]
  | cons c rest ih =>
    rw [occursIn, Bool.or_eq_true, List.isPrefixOf_iff_prefix, ih]
    constructor
    · rintro (⟨after, h⟩ | ⟨before, after, h⟩)
      · exact ⟨[], after, by simpa using h.symm⟩
      · exact ⟨c :: before, after, by simp [h]⟩
    · rintro ⟨before, after, h⟩
      cases before with
      | nil => exact .inl ⟨after, by simpa using h.symm⟩
      | cons b before =>
        obtain ⟨-, hrest⟩ := List.cons.inj h
        exact .inr ⟨before, after, hrest⟩

/-- A text without the needle is left as it is. -/
theorem replaceFrom_eq_self {find : List Char} (put : List Char) {cs : List Char}
    (h : occursIn find cs = false) : replaceFrom find put 0 cs = cs := by
  induction cs with
  | nil => rfl
  | cons c rest ih =>
    obtain ⟨hp, hr⟩ : find.isPrefixOf (c :: rest) = false ∧ occursIn find rest = false := by
      simpa [occursIn] using h
    simp [replaceFrom, hp, ih hr]

end Rollout.Text
