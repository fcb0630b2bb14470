import Mathlib.Data.List.Sort
import Rollout.Template

/-!
# The tokens of a template

A *token* is a name in braces behind a dollar sign. What a token is, where in a text tokens are, and
which of them is first is said here apart from how a template is read.

Two facts carry everything that is proved of templates. The name of a token is the longest one at
its place, for a name cannot hold the brace that closes the token: so a token is found by looking
ahead once (`Rollout.Template.token?_eq_some_iff`). And a token has a dollar sign at its start and
nowhere else (`Rollout.Template.not_mem_tail`): so no two tokens overlap, and the places of all
tokens are found by going on behind each token that is found (`Rollout.Template.mem_places`,
`Rollout.Template.pairwise_places`).
-/

namespace Rollout.Template

/-! ### Names -/

/-- A letter of a name. -/
def IsLetter (c : Char) : Prop := ('A' ≤ c ∧ c ≤ 'Z') ∨ ('a' ≤ c ∧ c ≤ 'z') ∨ c = '_'

/-- A digit of a name. -/
def IsDigit (c : Char) : Prop := '0' ≤ c ∧ c ≤ '9'

/-- **A name**: a letter, and behind it letters and digits. -/
def IsName : List Char → Prop
  | [] => False
  | c :: rest => IsLetter c ∧ ∀ d ∈ rest, IsLetter d ∨ IsDigit d

variable {c : Char} {cs name other after rest : List Char}

theorem startsName_iff : startsName c = true ↔ IsLetter c := by
  have hranges : startsName c = (decide ('A' ≤ c ∧ c ≤ 'Z') ||
      decide ('a' ≤ c) && decide (c ≤ 'z') || decide (c = '_')) := rfl
  simp only [hranges, IsLetter, Bool.or_eq_true, Bool.and_eq_true, decide_eq_true_eq, or_assoc]

theorem inName_iff : inName c = true ↔ IsLetter c ∨ IsDigit c := by
  have hranges : inName c = (c.isAlpha || decide ('0' ≤ c) && decide (c ≤ '9') ||
      decide (c = '_')) := rfl
  rw [← startsName_iff]
  simp only [hranges, startsName, IsDigit, Bool.or_eq_true, Bool.and_eq_true, decide_eq_true_eq,
    or_right_comm]

theorem inName_of_mem (h : IsName name) (hc : c ∈ name) : inName c = true := by
  cases name with
  | nil => exact h.elim
  | cons first rest =>
    rw [inName_iff]
    rcases List.mem_cons.mp hc with rfl | hc
    · exact .inl h.1
    · exact h.2 c hc

/-! ### Tokens -/

/-- **A token at the start of a text**: a dollar sign, and in braces the longest name that is
there. -/
structure Token (cs name after : List Char) : Prop where
  spelled : cs = writtenToken name ++ after
  isName : IsName name
  longest : ∀ other, IsName other → other <+: name ++ '}' :: after → other <+: name

theorem length_writtenToken (name : List Char) : (writtenToken name).length = name.length + 3 := by
  simp [writtenToken]

/-- A name cannot hold the brace behind it, and so the name of a token is the longest one. -/
theorem token_of_isName (h : IsName name) (after : List Char) :
    Token (writtenToken name ++ after) name after where
  spelled := rfl
  isName := h
  longest other hother hprefix := by
    rcases List.prefix_or_prefix_of_prefix hprefix (List.prefix_append name _) with hle | ⟨tail, rfl⟩
    · exact hle
    · -- a longer name would go on with the brace
      cases tail with
      | nil => exact (List.append_nil name).symm ▸ List.prefix_rfl
      | cons d tail =>
        obtain ⟨rfl, -⟩ : d = '}' ∧ tail <+: after := by
          simpa using (List.prefix_append_right_inj name).mp hprefix
        have hbrace : inName '}' = true :=
          inName_of_mem hother (List.mem_append_right _ List.mem_cons_self)
        exact absurd hbrace (by decide)

/-- **A token is found by looking ahead once.** -/
theorem token?_eq_some_iff : token? cs = some (name, after) ↔ Token cs name after := by
  constructor
  · intro h
    obtain rfl := eq_of_token? h
    refine token_of_isName ?_ after
    unfold token? at h
    split at h
    · rename_i c rest hcs
      split at h
      · rename_i hstart
        split at h
        · obtain ⟨rfl, -⟩ : c :: rest.takeWhile inName = name ∧ _ := by simpa using h
          refine ⟨startsName_iff.mp hstart, fun d hd => inName_iff.mp ?_⟩
          exact List.all_eq_true.mp List.all_takeWhile d hd
        · cases h
      · cases h
    · cases h
  · rintro ⟨rfl, hname, -⟩
    cases name with
    | nil => exact hname.elim
    | cons c rest =>
      -- no name holds the brace, so the look ahead goes exactly as far as that
      have hin : ∀ d ∈ rest, inName d = true := fun d hd => inName_iff.mpr (hname.2 d hd)
      have hdrop : (rest ++ '}' :: after).dropWhile inName = '}' :: after := by
        rw [List.dropWhile_append_of_pos hin]
        rfl
      have htake : (rest ++ '}' :: after).takeWhile inName = rest := by
        rw [List.takeWhile_append_of_pos hin]
        exact List.append_nil rest
      have hwritten : writtenToken (c :: rest) ++ after =
          '$' :: '{' :: c :: (rest ++ '}' :: after) := by
        simp [writtenToken]
      rw [hwritten, token?, if_pos (startsName_iff.mpr hname.1), hdrop, htake]
      rfl

theorem token?_eq_none_iff : token? cs = none ↔ ∀ name after, ¬Token cs name after := by
  rw [Option.eq_none_iff_forall_ne_some]
  constructor
  · exact fun h name after ht => h (name, after) (token?_eq_some_iff.mpr ht)
  · exact fun h found hfound => h found.1 found.2 (token?_eq_some_iff.mp hfound)

theorem Token.unique {name' after' : List Char} (h : Token cs name after)
    (h' : Token cs name' after') : name' = name ∧ after' = after := by
  have heq := (token?_eq_some_iff.mpr h').symm.trans (token?_eq_some_iff.mpr h)
  exact Prod.mk.inj (Option.some.inj heq)

theorem not_token_nil : ¬Token [] name after := fun h => nomatch h.spelled

/-- **Behind its start a token has no dollar sign.** -/
theorem not_mem_tail (h : IsName name) : '$' ∉ '{' :: name ++ ['}'] := by
  intro hmem
  have hname : '$' ∈ name := by simpa using hmem
  exact absurd (inName_of_mem h hname) (by decide)

/-! ### Places -/

/-- **There is a token at a place** of a text. -/
def TokenAt (cs : List Char) (place : Nat) (name : List Char) : Prop :=
  ∃ after, Token (cs.drop place) name after

variable {place : Nat}

theorem getElem?_of_tokenAt (h : TokenAt cs place name) : cs[place]? = some '$' := by
  obtain ⟨after, h⟩ := h
  rw [← List.head?_drop, h.spelled]
  rfl

theorem not_tokenAt_nil : ¬TokenAt [] place name := by
  rintro ⟨after, h⟩
  rw [List.drop_nil] at h
  exact not_token_nil h

/-- Behind a character where no token starts. -/
theorem tokenAt_cons_iff (hnone : token? (c :: rest) = none) :
    TokenAt (c :: rest) place name ↔ ∃ before, place = before + 1 ∧ TokenAt rest before name := by
  constructor
  · rintro ⟨after, h⟩
    cases place with
    | zero => exact absurd h (token?_eq_none_iff.mp hnone name after)
    | succ before => exact ⟨before, rfl, after, h⟩
  · rintro ⟨before, rfl, h⟩
    exact h

/-- Behind the start of a token the next one starts behind its end. -/
theorem tokenAt_written_iff (hname : IsName name) :
    TokenAt (writtenToken name ++ after) place other ↔
      (place = 0 ∧ other = name) ∨
        ∃ before, place = before + (writtenToken name).length ∧ TokenAt after before other := by
  constructor
  · intro h
    cases place with
    | zero =>
      obtain ⟨after', h⟩ := h
      exact .inl ⟨rfl, ((token_of_isName hname after).unique h).1⟩
    | succ place =>
      right
      rcases Nat.lt_or_ge (place + 1) (writtenToken name).length with hlt | hge
      · -- inside the token there is no dollar sign for another one to start with
        have hdollar := getElem?_of_tokenAt h
        rw [List.getElem?_append_left hlt, writtenToken, List.cons_append, List.getElem?_cons_succ]
          at hdollar
        exact absurd (List.mem_of_getElem? hdollar) (not_mem_tail hname)
      · obtain ⟨before, hbefore⟩ := Nat.exists_eq_add_of_le hge
        obtain ⟨after', h⟩ := h
        rw [hbefore, List.drop_length_add_append] at h
        exact ⟨before, by omega, after', h⟩
  · rintro (⟨rfl, rfl⟩ | ⟨before, rfl, after', h⟩)
    · exact ⟨after, token_of_isName hname after⟩
    · refine ⟨after', ?_⟩
      rwa [Nat.add_comm, List.drop_length_add_append]

/-! ### All tokens -/

/-- A place in a text, as a place in a longer text that ends with it. -/
def shift (n : Nat) (found : Nat × List Char) : Nat × List Char := (found.1 + n, found.2)

/-- The places of the tokens of a text, with their names. -/
def places (cs : List Char) : List (Nat × List Char) :=
  match _h : token? cs with
  | some (name, after) => (0, name) :: (places after).map (shift (writtenToken name).length)
  | none =>
    match cs with
    | [] => []
    | _ :: rest => (places rest).map (shift 1)
termination_by cs.length
decreasing_by
  · exact length_lt_of_token? _h
  · simp

theorem places_nil : places [] = [] := by
  rw [places.eq_def]
  rfl

theorem places_of_some (h : token? cs = some (name, after)) :
    places cs = (0, name) :: (places after).map (shift (writtenToken name).length) := by
  rw [places.eq_def]
  split
  · rename_i heq
    obtain ⟨rfl, rfl⟩ := Prod.mk.inj (Option.some.inj (heq.symm.trans h))
    rfl
  · rename_i heq
    rw [h] at heq
    cases heq

theorem places_of_none (h : token? (c :: rest) = none) :
    places (c :: rest) = (places rest).map (shift 1) := by
  rw [places.eq_def]
  split
  · rename_i heq
    rw [h] at heq
    cases heq
  · rfl

theorem mem_map_shift_iff {found : List (Nat × List Char)} {n : Nat} :
    (place, name) ∈ found.map (shift n) ↔
      ∃ before, place = before + n ∧ (before, name) ∈ found := by
  simp only [List.mem_map, shift, Prod.exists, Prod.mk.injEq]
  constructor
  · rintro ⟨before, _, h, rfl, rfl⟩
    exact ⟨before, rfl, h⟩
  · rintro ⟨before, rfl, h⟩
    exact ⟨before, name, h, rfl, rfl⟩

/-- **Every token has its place**: none is passed over in going on behind the ones before it. -/
theorem mem_places : (place, name) ∈ places cs ↔ TokenAt cs place name := by
  fun_induction places cs generalizing place with
  | case1 cs token after h ih =>
    obtain ⟨rfl, hname, -⟩ := token?_eq_some_iff.mp h
    rw [List.mem_cons, Prod.mk.injEq, mem_map_shift_iff, tokenAt_written_iff hname]
    exact or_congr Iff.rfl (exists_congr fun before => and_congr Iff.rfl ih)
  | case2 h => exact iff_of_false List.not_mem_nil not_tokenAt_nil
  | case3 c rest h ih =>
    rw [mem_map_shift_iff, tokenAt_cons_iff h]
    exact exists_congr fun before => and_congr Iff.rfl ih

/-- The first of two tokens ends before the second one starts. -/
def EndsBefore (m n : Nat × List Char) : Prop := m.1 + (writtenToken m.2).length ≤ n.1

instance : Std.Irrefl EndsBefore where
  irrefl m h := by
    simp only [EndsBefore, length_writtenToken] at h
    omega

instance : Std.Antisymm EndsBefore where
  antisymm m n h h' := by
    simp only [EndsBefore, length_writtenToken] at h h'
    omega

theorem pairwise_map_shift {found : List (Nat × List Char)} (n : Nat)
    (h : found.Pairwise EndsBefore) : (found.map (shift n)).Pairwise EndsBefore := by
  rw [List.pairwise_map]
  refine h.imp fun {m n} hmn => ?_
  simp only [EndsBefore, shift] at hmn ⊢
  omega

/-- **Tokens do not overlap**, and their places are found in order. -/
theorem pairwise_places (cs : List Char) : (places cs).Pairwise EndsBefore := by
  fun_induction places cs with
  | case1 cs token after h ih =>
    refine List.pairwise_cons.mpr ⟨?_, pairwise_map_shift _ ih⟩
    rintro ⟨place, name⟩ hmem
    obtain ⟨before, rfl, -⟩ := mem_map_shift_iff.mp hmem
    simp only [EndsBefore]
    omega
  | case2 h => exact .nil
  | case3 c rest h ih => exact pairwise_map_shift 1 ih

/-- **The places of all tokens of a text**, in order. -/
structure ArePlaces (cs : List Char) (found : List (Nat × List Char)) : Prop where
  complete : ∀ place name, (place, name) ∈ found ↔ TokenAt cs place name
  inOrder : found.Pairwise EndsBefore

theorem arePlaces_places (cs : List Char) : ArePlaces cs (places cs) :=
  ⟨fun _ _ => mem_places, pairwise_places cs⟩

/-- There is one list of the places of all tokens. -/
theorem ArePlaces.eq_places {found : List (Nat × List Char)} (h : ArePlaces cs found) :
    found = places cs :=
  h.inOrder.eq_of_mem_iff (pairwise_places cs) fun ⟨place, name⟩ =>
    (h.complete place name).trans mem_places.symm

end Rollout.Template
