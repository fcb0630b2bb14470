import Rollout.Proofs.Tokens

/-!
# How a template is cut

A template is cut into its tokens and the texts between them. What that comes to is said here in
three ways, none of which follows the way in which the cut is made.

* *By scanning.* From left to right, a token makes a segment where one starts, and every other
  character joins the literal that it stands in (`Rollout.Template.Scanned`).
* *By place.* The places of all tokens are found first. Then the text is cut along them, each time
  from the end of one token to the start of the next (`Rollout.Template.cut`).
* *By form.* Of all lists of segments that spell a text there is just one in *normal form*: its
  names are names, its literals are neither empty nor side by side, and none of them holds a token
  (`Rollout.Template.Normal`).

The normal form is where the dollar signs matter: what follows a literal is a token or nothing, so a
token that began in the literal and ended behind it would have a second dollar sign
(`Rollout.Template.not_token_append`). The main statement is `Rollout.Template.tokenised_parse`.
-/

namespace Rollout.Template

variable {c : Char} {cs rest name after text : List Char} {segments tail : List Segment}

/-! ### Scanning -/

/-- A character in front of some segments joins the literal that they begin with, or makes one. -/
def push (c : Char) : List Segment → List Segment
  | .literal text :: rest => .literal (c :: text) :: rest
  | segments => .literal [c] :: segments

/-- **Scanning a text** from left to right. -/
inductive Scanned : List Char → List Segment → Prop
  | nil : Scanned [] []
  | token {cs name after : List Char} {segments : List Segment} (h : Token cs name after)
      (hafter : Scanned after segments) : Scanned cs (.placeholder name :: segments)
  | char {c : Char} {rest : List Char} {segments : List Segment}
      (h : ∀ name after, ¬Token (c :: rest) name after) (hrest : Scanned rest segments) :
      Scanned (c :: rest) (push c segments)

/-- At each place there is one way to go on. -/
theorem Scanned.unique (h : Scanned cs segments) {others : List Segment} (h' : Scanned cs others) :
    others = segments := by
  induction h generalizing others with
  | nil =>
    cases h' with
    | nil => rfl
    | token ht _ => exact absurd ht not_token_nil
  | token ht _ ih =>
    cases h' with
    | nil => exact absurd ht not_token_nil
    | token ht' hafter' =>
      obtain ⟨rfl, rfl⟩ := ht.unique ht'
      rw [ih hafter']
    | char hnone _ => exact absurd ht (hnone _ _)
  | char hnone _ ih =>
    cases h' with
    | token ht _ => exact absurd ht (hnone _ _)
    | char _ hrest' => rw [ih hrest']

/-- Some characters in front of some segments, the last one first. -/
def pushAll (reversed : List Char) (segments : List Segment) : List Segment :=
  reversed.foldl (fun segments c => push c segments) segments

theorem pushAll_literal (reversed text : List Char) (tail : List Segment) :
    pushAll reversed (.literal text :: tail) = .literal (reversed.reverse ++ text) :: tail := by
  induction reversed generalizing text with
  | nil => rfl
  | cons c reversed ih =>
    rw [List.reverse_cons, List.append_assoc]
    exact ih (c :: text)

/-- In front of segments that begin with no literal, characters make a literal of their own. -/
theorem pushAll_eq_closeLiteral (hpush : ∀ c, push c segments = .literal [c] :: segments)
    (reversed : List Char) : pushAll reversed segments = closeLiteral reversed ++ segments := by
  cases reversed with
  | nil => rfl
  | cons c reversed =>
    have hfirst : pushAll (c :: reversed) segments = pushAll reversed (push c segments) := rfl
    rw [hfirst, hpush, pushAll_literal, ← List.reverse_cons]
    rfl

/-- **A template is cut as it is scanned**, where the literal that is being read is still held
back. -/
theorem exists_scanned (reversed cs : List Char) :
    ∃ segments, Scanned cs segments ∧ segmentsFrom reversed cs = pushAll reversed segments := by
  fun_induction segmentsFrom reversed cs with
  | case1 reversed cs name after h ih =>
    obtain ⟨segments, hscanned, heq⟩ := ih
    refine ⟨.placeholder name :: segments, .token (token?_eq_some_iff.mp h) hscanned, ?_⟩
    rw [pushAll_eq_closeLiteral (fun _ => rfl), heq]
    rfl
  | case2 reversed h =>
    exact ⟨[], .nil, by rw [pushAll_eq_closeLiteral (fun _ => rfl), List.append_nil]⟩
  | case3 reversed c rest h ih =>
    obtain ⟨segments, hscanned, heq⟩ := ih
    exact ⟨push c segments, .char (token?_eq_none_iff.mp h) hscanned, heq⟩

theorem scanned_segmentsFrom (cs : List Char) : Scanned cs (segmentsFrom [] cs) := by
  obtain ⟨segments, hscanned, heq⟩ := exists_scanned [] cs
  rw [heq]
  exact hscanned

theorem Scanned.written_eq (h : Scanned cs segments) : written segments = cs := by
  rw [(scanned_segmentsFrom cs).unique h, written_segmentsFrom]
  rfl

/-! ### Normal form -/

/-- No token starts and ends in a text. -/
def TokenFree (text : List Char) : Prop := ∀ place name, ¬TokenAt text place name

/-- **Segments in normal form.** -/
structure Normal (segments : List Segment) : Prop where
  names : ∀ name, .placeholder name ∈ segments → IsName name
  nonempty : ∀ text, .literal text ∈ segments → text ≠ []
  tokenFree : ∀ text, .literal text ∈ segments → TokenFree text
  /-- Between two literals there is a token. -/
  apart : ∀ before text other after,
    segments ≠ before ++ .literal text :: .literal other :: after

/-- The segments do not begin with a literal. -/
def NoLiteral (segments : List Segment) : Prop := ∀ text rest, segments ≠ .literal text :: rest

theorem normal_nil : Normal [] where
  names := nofun
  nonempty := nofun
  tokenFree := nofun
  apart before text other after h := by simp at h

theorem Normal.behind {s : Segment} (h : Normal (s :: tail)) : Normal tail where
  names name hmem := h.names name (List.mem_cons_of_mem _ hmem)
  nonempty text hmem := h.nonempty text (List.mem_cons_of_mem _ hmem)
  tokenFree text hmem := h.tokenFree text (List.mem_cons_of_mem _ hmem)
  apart before text other after heq := h.apart (s :: before) text other after (by rw [heq]; rfl)

theorem Normal.noLiteral (h : Normal (.literal text :: tail)) : NoLiteral tail := by
  rintro other after rfl
  exact h.apart [] text other after rfl

theorem Normal.placeholder (hname : IsName name) (h : Normal tail) :
    Normal (.placeholder name :: tail) where
  names other hmem := by
    rcases List.mem_cons.mp hmem with heq | hmem
    · exact Segment.placeholder.inj heq ▸ hname
    · exact h.names other hmem
  nonempty text hmem := h.nonempty text ((List.mem_cons.mp hmem).resolve_left nofun)
  tokenFree text hmem := h.tokenFree text ((List.mem_cons.mp hmem).resolve_left nofun)
  apart before text other after heq := by
    cases before with
    | nil => cases heq
    | cons s before => exact h.apart before text other after (List.cons.inj heq).2

theorem Normal.literal (htext : text ≠ []) (hfree : TokenFree text) (h : Normal tail)
    (hno : NoLiteral tail) : Normal (.literal text :: tail) where
  names name hmem := h.names name ((List.mem_cons.mp hmem).resolve_left nofun)
  nonempty other hmem := by
    rcases List.mem_cons.mp hmem with heq | hmem
    · exact Segment.literal.inj heq ▸ htext
    · exact h.nonempty other hmem
  tokenFree other hmem := by
    rcases List.mem_cons.mp hmem with heq | hmem
    · exact Segment.literal.inj heq ▸ hfree
    · exact h.tokenFree other hmem
  apart before first second after heq := by
    cases before with
    | nil => exact hno second after (List.cons.inj heq).2
    | cons s before => exact h.apart before first second after (List.cons.inj heq).2

/-- Pushing a character makes a longer literal or a new one. -/
theorem push_cases (c : Char) (segments : List Segment) :
    (∃ text tail, segments = .literal text :: tail ∧
        push c segments = .literal (c :: text) :: tail) ∨
      NoLiteral segments ∧ push c segments = .literal [c] :: segments := by
  unfold push
  split
  · rename_i text tail
    exact .inl ⟨text, tail, rfl, rfl⟩
  · rename_i hno
    exact .inr ⟨hno, rfl⟩

theorem Token.append (h : Token cs name after) (more : List Char) :
    Token (cs ++ more) name (after ++ more) := by
  obtain ⟨rfl, hname, -⟩ := h
  rw [List.append_assoc]
  exact token_of_isName hname _

/-- A text that holds no token holds none behind a character where none starts. -/
theorem tokenFree_cons (hfree : TokenFree text)
    (hnone : ∀ name after, ¬Token (c :: text) name after) : TokenFree (c :: text) := by
  rintro (_ | place) name ⟨after, h⟩
  · exact hnone name after h
  · exact hfree place name ⟨after, h⟩

/-- What is scanned is in normal form. -/
theorem Scanned.normal (h : Scanned cs segments) : Normal segments := by
  induction h with
  | nil => exact normal_nil
  | token h _ ih => exact ih.placeholder h.isName
  | @char c rest segments hnone hrest ih =>
    -- the literal is a part of the text, so a token at its start would be one in the text
    have hstart {text : List Char} {tail : List Segment} (hsplit : rest = text ++ written tail)
        (name after : List Char) : ¬Token (c :: text) name after := by
      intro ht
      rw [hsplit] at hnone
      exact hnone name _ (ht.append (written tail))
    rcases push_cases c segments with ⟨text, tail, rfl, hpush⟩ | ⟨hno, hpush⟩
    · rw [hpush]
      have hfree := ih.tokenFree text List.mem_cons_self
      have hsplit : rest = text ++ written tail := hrest.written_eq.symm
      exact ih.behind.literal nofun (tokenFree_cons hfree (hstart hsplit)) ih.noLiteral
    · rw [hpush]
      have hfree : TokenFree [] := fun _ _ => not_tokenAt_nil
      have hsplit : rest = [] ++ written segments := hrest.written_eq.symm
      exact ih.literal nofun (tokenFree_cons hfree (hstart hsplit)) hno

/-- **No token begins in a literal and ends behind it**, where a dollar sign follows or nothing. -/
theorem not_token_append (hnone : ∀ name after, ¬Token (c :: text) name after)
    (hrest : ∀ d ∈ rest.head?, d = '$') : ¬Token (c :: text ++ rest) name after := by
  intro h
  rcases List.append_eq_append_iff.mp h.spelled with ⟨more, hwritten, hmore⟩ | ⟨more, htext, -⟩
  · cases more with
    | nil =>
      have ht := token_of_isName h.isName []
      rw [List.append_nil, hwritten, List.append_nil] at ht
      exact hnone name [] ht
    | cons d more =>
      obtain rfl : d = '$' := hrest d (by rw [hmore]; rfl)
      have htail : '{' :: name ++ ['}'] = text ++ '$' :: more := (List.cons.inj hwritten).2
      refine not_mem_tail h.isName ?_
      rw [htail]
      exact List.mem_append_right _ List.mem_cons_self
  · have ht := token_of_isName h.isName more
    rw [← htext] at ht
    exact hnone name more ht

theorem head?_written (hno : NoLiteral segments) : ∀ d ∈ (written segments).head?, d = '$' := by
  cases segments with
  | nil => nofun
  | cons s tail =>
    cases s with
    | literal text => exact absurd rfl (hno text tail)
    | placeholder name =>
      intro d hd
      exact (Option.some.inj hd).symm

/-- A literal that holds no token is scanned character by character. -/
theorem Scanned.literal (h : Scanned (written tail) tail) (hno : NoLiteral tail)
    (hfree : TokenFree text) (htext : text ≠ []) :
    Scanned (text ++ written tail) (.literal text :: tail) := by
  induction text with
  | nil => exact absurd rfl htext
  | cons c text ih =>
    have hnone (name after : List Char) : ¬Token (c :: text ++ written tail) name after :=
      not_token_append (fun name after ht => hfree 0 name ⟨after, ht⟩) (head?_written hno)
    have hfree' : TokenFree text := fun place name ht => hfree (place + 1) name ht
    cases text with
    | nil =>
      have hpush : push c tail = .literal [c] :: tail := by
        rcases push_cases c tail with ⟨text, tail', rfl, -⟩ | ⟨-, hpush⟩
        · exact absurd rfl (hno text tail')
        · exact hpush
      rw [← hpush]
      exact .char hnone h
    | cons d text => exact .char hnone (ih hfree' nofun)

/-- **Segments in normal form are scanned off the text that they spell.** -/
theorem Normal.scanned (h : Normal segments) : Scanned (written segments) segments := by
  induction segments with
  | nil => exact .nil
  | cons s tail ih =>
    cases s with
    | placeholder name =>
      exact .token (token_of_isName (h.names name List.mem_cons_self) _) (ih h.behind)
    | literal text =>
      exact (ih h.behind).literal h.noLiteral (h.tokenFree text List.mem_cons_self)
        (h.nonempty text List.mem_cons_self)

/-! ### Cutting along the places -/

/-- Cuts a text along the places of its tokens; `last` is the end of the token before. -/
def cut (cs : List Char) : (last : Nat) → List (Nat × List Char) → List Segment
  | last, [] => if last < cs.length then [.literal (cs.drop last)] else []
  | last, (start, name) :: found =>
    (if last < start then [.literal ((cs.take start).drop last)] else []) ++
      .placeholder name :: cut cs (start + (writtenToken name).length) found

theorem map_shift_shift (found : List (Nat × List Char)) (m n : Nat) :
    (found.map (shift m)).map (shift n) = found.map (shift (m + n)) := by
  rw [List.map_map]
  refine List.map_congr_left fun x _ => ?_
  simp [shift, Nat.add_assoc]

/-- The literal that has been read is the text since the token before. -/
theorem literal_since (before reversed rest : List Char) :
    (if before.length < (before ++ reversed.reverse).length then
        [Segment.literal (((before ++ reversed.reverse ++ rest).take
          (before ++ reversed.reverse).length).drop before.length)]
      else []) = closeLiteral reversed := by
  cases reversed with
  | nil => simp [closeLiteral]
  | cons c reversed =>
    rw [if_pos (by simp), List.take_left, List.drop_left]
    rfl

/-- **A template is cut along the places of its tokens**, where the text `before` has been cut
already and a literal is being read. -/
theorem cut_places (before reversed cs : List Char) :
    cut (before ++ reversed.reverse ++ cs) before.length
        ((places cs).map (shift (before ++ reversed.reverse).length)) =
      segmentsFrom reversed cs := by
  fun_induction segmentsFrom reversed cs generalizing before with
  | case1 reversed cs name after h ih =>
    have hrest := ih (before ++ reversed.reverse ++ writtenToken name)
    have hlength : (writtenToken name).length + (before ++ reversed.reverse).length =
        (before ++ reversed.reverse ++ writtenToken name).length := by
      rw [Nat.add_comm, ← List.length_append]
    rw [List.reverse_nil, List.append_nil, List.append_assoc _ _ after, ← eq_of_token? h] at hrest
    rw [places_of_some h, List.map_cons, map_shift_shift, hlength, ← hrest, shift, Nat.zero_add,
      cut, literal_since, @List.length_append _ _ (writtenToken name)]
  | case2 reversed h =>
    have hliteral := literal_since before reversed []
    rw [List.append_nil, List.take_length] at hliteral
    rw [places_nil, List.map_nil, List.append_nil, cut, hliteral]
  | case3 reversed c rest h ih =>
    have hrest := ih before
    rw [List.reverse_cons, ← List.append_assoc, List.append_assoc _ [c] rest,
      List.singleton_append] at hrest
    rw [places_of_none h, map_shift_shift, ← hrest, Nat.add_comm, @List.length_append _ _ [c],
      List.length_singleton]

/-! ### Templates -/

/-- **Segments are what a text is cut into.** -/
structure Tokenised (cs : List Char) (segments : List Segment) : Prop where
  /-- They are what is scanned, and nothing else is. -/
  scanned_iff : ∀ others, Scanned cs others ↔ others = segments
  /-- Written one behind the other they are the text. -/
  written_eq : written segments = cs
  normal : Normal segments
  /-- No other segments in normal form spell the text. -/
  unique : ∀ others, written others = cs → Normal others → others = segments
  /-- The text has a list of the places of its tokens. -/
  exists_places : ∃ found, ArePlaces cs found
  /-- They are what is cut along these places. -/
  cut_eq : ∀ found, ArePlaces cs found → cut cs 0 found = segments

/-- **A template is cut at its tokens**, however one looks at it. -/
theorem tokenised_parse (name source : String) :
    Tokenised source.toList (parse name source).segments := by
  have hscanned := scanned_segmentsFrom source.toList
  refine ⟨fun others => ⟨hscanned.unique, ?_⟩, hscanned.written_eq, hscanned.normal, ?_,
    ⟨_, arePlaces_places _⟩, ?_⟩
  · rintro rfl
    exact hscanned
  · intro others hwritten hnormal
    have hothers := hnormal.scanned
    rw [hwritten] at hothers
    exact hscanned.unique hothers
  · intro found hfound
    obtain rfl := hfound.eq_places
    have hcut := cut_places [] [] source.toList
    have hshift : (places source.toList).map (shift 0) = places source.toList :=
      (List.map_congr_left fun _ _ => rfl).trans (List.map_id _)
    rwa [List.reverse_nil, List.append_nil, List.nil_append, List.length_nil, hshift] at hcut

end Rollout.Template
