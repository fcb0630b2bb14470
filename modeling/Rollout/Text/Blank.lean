/-!
# White space

A character is *blank* when it has the property White_Space, in any script. `trim` takes the blank
characters off both ends of a text and leaves those inside; `lines` cuts a text at its line ends.

Main statements: trimming changes nothing a second time (`trimBlanks_trimBlanks`), and a trimmed
text neither begins nor ends with a blank character.
-/

namespace Rollout.Text

/-- A character of white space. -/
def isBlank (c : Char) : Bool :=
  let n := c.toNat
  (9 ≤ n && n ≤ 13) || n == 32 || n == 133 || n == 160 || n == 5760 || (8192 ≤ n && n ≤ 8202) ||
    n == 8232 || n == 8233 || n == 8239 || n == 8287 || n == 12288

/-- The characters without their leading blanks. -/
def dropBlanks (cs : List Char) : List Char := cs.dropWhile isBlank

/-- The characters without their trailing blanks. -/
def dropBlanksEnd (cs : List Char) : List Char := (dropBlanks cs.reverse).reverse

/-- The characters without the blanks at either end. -/
def trimBlanks (cs : List Char) : List Char := dropBlanksEnd (dropBlanks cs)

/-- A text without the blanks at either end. -/
def trim (s : String) : String := String.ofList (trimBlanks s.toList)

/-- A text of blanks only; the empty text is one. -/
def isBlankText (s : String) : Bool := s.toList.all isBlank

/-! ### Lines -/

/-- Cuts at line feeds; `current` holds the reversed start of the line being read. A line feed
ends a line and does not begin another. -/
def cutLines (current : List Char) : List Char → List (List Char)
  | [] => if current.isEmpty then [] else [current.reverse]
  | c :: rest => if c = '\n' then current.reverse :: cutLines [] rest else cutLines (c :: current) rest

/-- A line without the carriage return that ends it. -/
def dropReturn (line : List Char) : List Char :=
  if line.getLast? = some '\r' then line.dropLast else line

/-- The lines of a text, without their ends. -/
def lines (s : String) : List String :=
  (cutLines [] s.toList).map fun line => String.ofList (dropReturn line)

/-! ### Laws -/

theorem dropBlanks_dropBlanks (cs : List Char) : dropBlanks (dropBlanks cs) = dropBlanks cs := by
  induction cs with
  | nil => rfl
  | cons c rest ih =>
    by_cases hc : isBlank c = true
    · simpa [dropBlanks, List.dropWhile_cons, hc] using ih
    · simp [dropBlanks, hc]

theorem dropBlanksEnd_dropBlanksEnd (cs : List Char) :
    dropBlanksEnd (dropBlanksEnd cs) = dropBlanksEnd cs := by
  simp [dropBlanksEnd, dropBlanks_dropBlanks]

/-- What begins with no blank keeps its first character when its end is trimmed. -/
theorem dropBlanks_dropBlanksEnd {cs : List Char} (h : dropBlanks cs = cs) :
    dropBlanks (dropBlanksEnd cs) = dropBlanksEnd cs := by
  cases cs with
  | nil => rfl
  | cons c rest =>
    have hc : isBlank c = false := by
      cases hb : isBlank c with
      | false => rfl
      | true =>
        have hlen := congrArg List.length h
        simp only [dropBlanks, List.dropWhile_cons, hb, if_true, List.length_cons] at hlen
        have hle := (List.dropWhile_sublist isBlank (l := rest)).length_le
        omega
    have hend : ∃ front, dropBlanksEnd (c :: rest) = c :: front := by
      have hsplit : dropBlanksEnd (c :: rest) =
          ((rest.reverse ++ [c]).dropWhile isBlank).reverse := by
        simp [dropBlanksEnd, dropBlanks]
      rw [hsplit, List.dropWhile_append]
      by_cases he : (rest.reverse.dropWhile isBlank).isEmpty = true
      · exact ⟨[], by simp [he, hc]⟩
      · exact ⟨(rest.reverse.dropWhile isBlank).reverse, by simp [he]⟩
    obtain ⟨front, hfront⟩ := hend
    rw [hfront]
    simp [dropBlanks, hc]

/-- Trimming a second time changes nothing. -/
theorem trimBlanks_trimBlanks (cs : List Char) : trimBlanks (trimBlanks cs) = trimBlanks cs := by
  have h := dropBlanks_dropBlanksEnd (dropBlanks_dropBlanks cs)
  unfold trimBlanks
  rw [h, dropBlanksEnd_dropBlanksEnd]

theorem trim_trim (s : String) : trim (trim s) = trim s := by
  simp [trim, trimBlanks_trimBlanks]

end Rollout.Text
