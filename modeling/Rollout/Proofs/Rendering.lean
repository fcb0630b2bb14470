import Rollout.Proofs.Segments

/-!
# What a rendering is

To render a template is to put values in place of the tokens of its source, all at once: one goes
through the source from left to right and copies it, but for the tokens, in place of which the
values are copied (`Rollout.Template.Substituted`). The relation reads the source only. So a value
is never looked at again, whatever it holds and whatever stands beside it.

Where a name that occurs has no value there is no rendering, and the failure lists the names without
one. They are collected in a fold over the names of all tokens; the invariant
(`Rollout.Template.Collected`) is that the names collected so far are those that have occurred, each
once and in the order of their first tokens.

The main statement is `Rollout.Template.renders_parse`. It speaks of the tokens of the source and of
their places, and not of the segments that the source was cut into.
-/

namespace Rollout.Template

variable {c : Char} {cs rest name after out : List Char} {segments : List Segment}
  {values : List (String × String)}

/-! ### Names that occur -/

/-- **A name occurs in a text** where there is a token of it. -/
def Occurs (cs : List Char) (name : String) : Prop := ∃ place, TokenAt cs place name.toList

/-- **One name occurs before another one**: some token of it is in front of every token of the
other. -/
def FirstBefore (cs : List Char) (m n : String) : Prop :=
  ∃ place, TokenAt cs place m.toList ∧ ∀ other, TokenAt cs other n.toList → place < other

/-- The names of the tokens of a text, from left to right. -/
def tokenNames (cs : List Char) : List String := (places cs).map fun found => String.ofList found.2

theorem mem_tokenNames {n : String} : n ∈ tokenNames cs ↔ Occurs cs n := by
  simp only [tokenNames, List.mem_map, Prod.exists, Occurs]
  constructor
  · rintro ⟨place, name, h, rfl⟩
    rw [String.toList_ofList]
    exact ⟨place, mem_places.mp h⟩
  · rintro ⟨place, h⟩
    exact ⟨place, n.toList, mem_places.mpr h, String.ofList_toList⟩

theorem tokenNames_of_token (h : Token cs name after) :
    tokenNames cs = String.ofList name :: tokenNames after := by
  rw [tokenNames, places_of_some (token?_eq_some_iff.mpr h), List.map_cons, List.map_map]
  rfl

theorem tokenNames_cons (hnone : ∀ name after, ¬Token (c :: rest) name after) :
    tokenNames (c :: rest) = tokenNames rest := by
  rw [tokenNames, places_of_none (token?_eq_none_iff.mpr hnone), List.map_map]
  rfl

theorem filterMap_push (c : Char) (segments : List Segment) :
    (push c segments).filterMap Segment.name? = segments.filterMap Segment.name? := by
  rcases push_cases c segments with ⟨text, tail, rfl, hpush⟩ | ⟨-, hpush⟩
  · rw [hpush]
    rfl
  · rw [hpush]
    rfl

/-- The names of the segments are those of the tokens. -/
theorem Scanned.filterMap_eq (h : Scanned cs segments) :
    segments.filterMap Segment.name? = tokenNames cs := by
  induction h with
  | nil => rw [tokenNames, places_nil]; rfl
  | @token cs name after segments h _ ih =>
    rw [tokenNames_of_token h, ← ih]
    rfl
  | char hnone _ ih => rw [filterMap_push, ih, tokenNames_cons hnone]

/-! ### Collecting names -/

/-- **Some names have been collected** from those that have come: each once, in the order in which
they came first. -/
structure Collected (come names : List String) : Prop where
  nodup : names.Nodup
  mem_iff : ∀ n, n ∈ names ↔ n ∈ come
  inOrder : names.Pairwise fun m n => ∃ before after, come = before ++ m :: after ∧ n ∉ before

/-- What one more name leaves. -/
theorem Collected.step {come names : List String} (h : Collected come names) (name : String) :
    Collected (come ++ [name])
      (if names.contains name then names else names ++ [name]) := by
  -- what came first still does when more has come
  have hlonger : names.Pairwise fun m n =>
      ∃ before after, come ++ [name] = before ++ m :: after ∧ n ∉ before := by
    refine h.inOrder.imp ?_
    rintro m n ⟨before, after, hcome, hn⟩
    exact ⟨before, after ++ [name], by rw [hcome, List.append_assoc, List.cons_append], hn⟩
  split
  · rename_i hmem
    have hcome : name ∈ come := (h.mem_iff name).mp (List.contains_iff_mem.mp hmem)
    refine ⟨h.nodup, fun n => ?_, hlonger⟩
    rw [h.mem_iff, List.mem_append, List.mem_singleton]
    exact ⟨.inl, fun hn => hn.elim id fun heq => heq ▸ hcome⟩
  · rename_i hmem
    have hnew : name ∉ names := fun hname => hmem (List.contains_iff_mem.mpr hname)
    refine ⟨?_, fun n => ?_, ?_⟩
    · rw [List.nodup_append]
      refine ⟨h.nodup, List.nodup_singleton name, fun m hm n hn heq => hnew ?_⟩
      rwa [← List.mem_singleton.mp hn, ← heq]
    · rw [List.mem_append, List.mem_append, h.mem_iff]
    · refine List.pairwise_append.mpr ⟨hlonger, List.pairwise_singleton _ _, fun m hm n hn => ?_⟩
      obtain rfl := List.mem_singleton.mp hn
      obtain ⟨before, after, hcome⟩ := List.append_of_mem ((h.mem_iff m).mp hm)
      refine ⟨before, after ++ [n], by rw [hcome, List.append_assoc, List.cons_append], ?_⟩
      intro hbefore
      refine hnew ((h.mem_iff n).mpr ?_)
      rw [hcome]
      exact List.mem_append_left _ hbefore

/-- What all names leave. -/
theorem Collected.foldl {come names : List String} (h : Collected come names) (more : List String) :
    Collected (come ++ more) (more.foldl
      (fun names name => if names.contains name then names else names ++ [name]) names) := by
  induction more generalizing come names with
  | nil => rwa [List.append_nil]
  | cons name more ih =>
    rw [List.append_cons]
    exact ih (h.step name)

/-- What has come first has its first token first. -/
theorem firstBefore_of_split {m n : String} {before after : List String}
    (h : tokenNames cs = before ++ m :: after) (hn : n ∉ before) (hne : m ≠ n) :
    FirstBefore cs m n := by
  obtain ⟨found, others, hplaces, hbefore, hothers⟩ := List.map_eq_append_iff.mp h
  obtain ⟨⟨place, name⟩, later, rfl, hm, -⟩ := List.map_eq_cons_iff.mp hothers
  have hname : name = m.toList := by rw [← hm, String.toList_ofList]
  subst hname
  have hmem {p : Nat × List Char} (hp : p ∈ found ++ (place, m.toList) :: later) :
      p ∈ places cs := by
    rwa [hplaces]
  refine ⟨place, mem_places.mp (hmem (List.mem_append_right _ List.mem_cons_self)), ?_⟩
  intro other hother
  have hmem' := mem_places.mpr hother
  have hsorted := pairwise_places cs
  rw [hplaces] at hmem' hsorted
  -- the token of the other name is not in front, for there its name has not come yet
  rcases List.mem_append.mp hmem' with hfound | hlater
  · refine absurd ?_ hn
    rw [← hbefore]
    exact List.mem_map.mpr ⟨_, hfound, String.ofList_toList⟩
  · rcases List.mem_cons.mp hlater with heq | hlater
    · refine absurd ?_ hne
      rw [← String.ofList_toList (s := m), ← (Prod.mk.inj heq).2, String.ofList_toList]
    · have hends := (List.pairwise_cons.mp (List.pairwise_append.mp hsorted).2.1).1 _ hlater
      rw [EndsBefore, length_writtenToken] at hends
      omega

/-! ### Substitution -/

/-- **Substitution in one pass**: what a text becomes when values are put in place of its tokens. -/
inductive Substituted (values : List (String × String)) : List Char → List Char → Prop
  | nil : Substituted values [] []
  | token {cs name after out : List Char} {value : String} (h : Token cs name after)
      (hvalue : values.lookup (String.ofList name) = some value)
      (hafter : Substituted values after out) : Substituted values cs (value.toList ++ out)
  | char {c : Char} {rest out : List Char} (h : ∀ name after, ¬Token (c :: rest) name after)
      (hrest : Substituted values rest out) : Substituted values (c :: rest) (c :: out)

theorem substituted_nil_iff : Substituted values [] out ↔ out = [] := by
  constructor
  · rintro (_ | h)
    · rfl
    · exact absurd h not_token_nil
  · rintro rfl
    exact .nil

theorem substituted_token_iff (h : Token cs name after) :
    Substituted values cs out ↔ ∃ value rest, values.lookup (String.ofList name) = some value ∧
      Substituted values after rest ∧ out = value.toList ++ rest := by
  constructor
  · rintro (_ | ⟨h', hvalue, hafter⟩ | ⟨hnone, -⟩)
    · exact absurd h not_token_nil
    · obtain ⟨rfl, rfl⟩ := h.unique h'
      exact ⟨_, _, hvalue, hafter, rfl⟩
    · exact absurd h (hnone _ _)
  · rintro ⟨value, rest, hvalue, hafter, rfl⟩
    exact .token h hvalue hafter

theorem substituted_char_iff (hnone : ∀ name after, ¬Token (c :: rest) name after) :
    Substituted values (c :: rest) out ↔
      ∃ more, Substituted values rest more ∧ out = c :: more := by
  constructor
  · rintro (_ | ⟨h, -, -⟩ | ⟨-, hrest⟩)
    · exact absurd h (hnone _ _)
    · exact ⟨_, hrest, rfl⟩
  · rintro ⟨more, hrest, rfl⟩
    exact .char hnone hrest

theorem flatMap_fill_push (c : Char) (segments : List Segment) :
    (push c segments).flatMap (fill values) = c :: segments.flatMap (fill values) := by
  rcases push_cases c segments with ⟨text, tail, rfl, hpush⟩ | ⟨-, hpush⟩
  · rw [hpush]
    rfl
  · rw [hpush]
    rfl

/-- **To fill the segments of a text is to substitute in the text**, once all names have values. -/
theorem Scanned.substituted_iff (h : Scanned cs segments) :
    Substituted values cs out ↔
      (∀ n ∈ tokenNames cs, ∃ value, values.lookup n = some value) ∧
        out = segments.flatMap (fill values) := by
  -- the induction is on the scan, which stops where the substitution does
  induction h generalizing out with
  | nil =>
    rw [substituted_nil_iff, tokenNames, places_nil]
    exact ⟨fun h => ⟨nofun, h⟩, fun h => h.2⟩
  | @token cs name after segments h _ ih =>
    rw [substituted_token_iff h, tokenNames_of_token h, List.forall_mem_cons, List.flatMap_cons]
    constructor
    · rintro ⟨value, rest, hvalue, hafter, rfl⟩
      obtain ⟨hnames, rfl⟩ := ih.mp hafter
      refine ⟨⟨⟨value, hvalue⟩, hnames⟩, ?_⟩
      rw [fill, hvalue]
      rfl
    · rintro ⟨⟨⟨value, hvalue⟩, hnames⟩, rfl⟩
      refine ⟨value, _, hvalue, ih.mpr ⟨hnames, rfl⟩, ?_⟩
      rw [fill, hvalue]
      rfl
  | char hnone _ ih =>
    rw [substituted_char_iff hnone, tokenNames_cons hnone, flatMap_fill_push]
    constructor
    · rintro ⟨more, hrest, rfl⟩
      obtain ⟨hnames, rfl⟩ := ih.mp hrest
      exact ⟨hnames, rfl⟩
    · rintro ⟨hnames, rfl⟩
      exact ⟨_, ih.mpr ⟨hnames, rfl⟩, rfl⟩

/-- A text becomes one thing only. -/
theorem Substituted.unique (h : Substituted values cs out) {other : List Char}
    (h' : Substituted values cs other) : out = other := by
  have hscanned := scanned_segmentsFrom cs
  rw [(hscanned.substituted_iff.mp h).2, (hscanned.substituted_iff.mp h').2]

/-- Where a text becomes something, each name that occurs has a value. -/
theorem Substituted.exists_value (h : Substituted values cs out) {n : String} (hn : Occurs cs n) :
    ∃ value, values.lookup n = some value :=
  ((scanned_segmentsFrom cs).substituted_iff.mp h).1 n (mem_tokenNames.mpr hn)

theorem toList_writtenToken (n : String) :
    (Failure.writtenToken n).toList = writtenToken n.toList := by
  rw [Failure.writtenToken, String.toList_append, String.toList_append]
  rfl

/-- With each token as its own value, a text is what it becomes. -/
theorem Scanned.substituted_self (h : Scanned cs segments)
    (hvalues : ∀ n ∈ tokenNames cs, values.lookup n = some (Failure.writtenToken n)) :
    Substituted values cs cs := by
  induction h with
  | nil => exact .nil
  | @token cs name after segments h _ ih =>
    rw [tokenNames_of_token h, List.forall_mem_cons] at hvalues
    have hsubst := Substituted.token h hvalues.1 (ih hvalues.2)
    rwa [toList_writtenToken, String.toList_ofList, ← h.spelled] at hsubst
  | char hnone _ ih =>
    rw [tokenNames_cons hnone] at hvalues
    exact .char hnone (ih hvalues)

/-! ### Rendering -/

theorem filterMap_segments (name source : String) :
    (parse name source).segments.filterMap Segment.name? = tokenNames source.toList :=
  (scanned_segmentsFrom source.toList).filterMap_eq

/-- The names that a template asks for are those that occur in its source. -/
theorem collected_placeholders (name source : String) :
    Collected (tokenNames source.toList) (parse name source).placeholders := by
  have hempty : Collected [] [] := ⟨List.nodup_nil, fun _ => Iff.rfl, List.Pairwise.nil⟩
  rw [placeholders, filterMap_segments]
  exact hempty.foldl _

theorem mem_placeholders {name source n : String} :
    n ∈ (parse name source).placeholders ↔ Occurs source.toList n := by
  rw [(collected_placeholders name source).mem_iff, mem_tokenNames]

theorem mem_missing {name source n : String} :
    n ∈ (parse name source).missing values ↔ Occurs source.toList n ∧ values.lookup n = none := by
  rw [missing, List.mem_filter, mem_placeholders, Option.isNone_iff_eq_none]

/-- The names without a value are listed in the order in which they occur. -/
theorem pairwise_missing (name source : String) (values : List (String × String)) :
    ((parse name source).missing values).Pairwise (FirstBefore source.toList) := by
  have hcollected := collected_placeholders name source
  refine List.Pairwise.filter _ ((hcollected.inOrder.and hcollected.nodup).imp ?_)
  rintro m n ⟨⟨before, after, hsplit, hn⟩, hne⟩
  exact firstBefore_of_split hsplit hn hne

theorem render_eq_ok_iff {t : Template} {out : String} :
    t.render values = .ok out ↔
      t.missing values = [] ∧ out.toList = t.segments.flatMap (fill values) := by
  unfold render
  split
  · rename_i hnone
    rw [hnone, Except.ok.injEq, ← String.toList_inj, String.toList_ofList]
    exact ⟨fun h => ⟨rfl, h.symm⟩, fun h => h.2.symm⟩
  · rename_i hsome
    exact ⟨nofun, fun h => absurd h.1 hsome⟩

theorem render_eq_error_iff {t : Template} {f : Failure} :
    t.render values = .error f ↔
      t.missing values ≠ [] ∧ f = .unresolved t.name (t.missing values) := by
  unfold render
  split
  · rename_i hnone
    exact ⟨nofun, fun h => absurd hnone h.1⟩
  · rename_i hsome
    rw [Except.error.injEq]
    exact ⟨fun h => ⟨hsome, h.symm⟩, fun h => h.2.symm⟩

/-- All names have values when none is missing. -/
theorem missing_eq_nil_iff {name source : String} :
    (parse name source).missing values = [] ↔
      ∀ n, Occurs source.toList n → ∃ value, values.lookup n = some value := by
  simp only [List.eq_nil_iff_forall_not_mem, mem_missing, not_and, ← Option.ne_none_iff_exists']

/-- **To render a template is to substitute in its source.** -/
theorem render_eq_ok_iff_substituted {name source out : String} :
    (parse name source).render values = .ok out ↔ Substituted values source.toList out.toList := by
  rw [render_eq_ok_iff, missing_eq_nil_iff, (scanned_segmentsFrom source.toList).substituted_iff]
  simp only [mem_tokenNames]
  rfl

/-- A segment is filled from the value of its name only. -/
theorem fill_congr {others : List (String × String)} {s : Segment}
    (hagree : ∀ n, s.name? = some n → values.lookup n = others.lookup n) :
    fill values s = fill others s := by
  cases s with
  | literal text => rfl
  | placeholder name => rw [fill, fill, hagree _ rfl]

theorem render_congr {name source : String} {others : List (String × String)}
    (hagree : ∀ n, Occurs source.toList n → values.lookup n = others.lookup n) :
    (parse name source).render values = (parse name source).render others := by
  have hmissing : (parse name source).missing values = (parse name source).missing others :=
    List.filter_congr fun n hn => by rw [hagree n (mem_placeholders.mp hn)]
  have hfill : (parse name source).segments.map (fill values) =
      (parse name source).segments.map (fill others) := by
    refine List.map_congr_left fun s hs => fill_congr fun n hn => hagree n ?_
    rw [← mem_tokenNames, ← filterMap_segments name]
    exact List.mem_filterMap.mpr ⟨s, hs, hn⟩
  rw [render, render, hmissing, List.flatMap_def, List.flatMap_def, hfill]

/-- **Rendering a text**, as all values for its names see it. -/
structure Renders (name : String) (cs : List Char)
    (render : List (String × String) → Except Failure String) : Prop where
  /-- It succeeds exactly if each name that occurs has a value. -/
  succeeds_iff : ∀ values, (∃ out, render values = .ok out) ↔
    ∀ n, Occurs cs n → ∃ value, values.lookup n = some value
  /-- Then it is substitution in one pass. -/
  eq_ok_iff : ∀ values out, render values = .ok out ↔ Substituted values cs out.toList
  /-- No value of another name matters. -/
  eq_of_agree : ∀ values others, (∀ n, Occurs cs n → values.lookup n = others.lookup n) →
    render values = render others
  /-- Otherwise it lists each name without a value once, as they occur. -/
  of_error : ∀ values f, render values = .error f → ∃ tokens,
    f = .unresolved name tokens ∧ f.code = 6001 ∧ f.matter = .template tokens [] ∧
      tokens.Nodup ∧ (∀ n, n ∈ tokens ↔ Occurs cs n ∧ values.lookup n = none) ∧
      tokens.Pairwise (FirstBefore cs)
  /-- With each token as its own value the text stays as it is. -/
  identity : ∀ values, (∀ n, Occurs cs n → values.lookup n = some (Failure.writtenToken n)) →
    render values = .ok (String.ofList cs)

/-- **Rendering is substitution in one pass, or lists all names without a value.** -/
theorem renders_parse (name source : String) :
    Renders name source.toList (parse name source).render where
  succeeds_iff values := by
    rw [← @missing_eq_nil_iff _ name]
    constructor
    · rintro ⟨out, h⟩
      exact (render_eq_ok_iff.mp h).1
    · intro h
      exact ⟨String.ofList _, render_eq_ok_iff.mpr ⟨h, String.toList_ofList⟩⟩
  eq_ok_iff values out := render_eq_ok_iff_substituted
  eq_of_agree values others := render_congr
  of_error values f h := by
    obtain ⟨-, rfl⟩ := render_eq_error_iff.mp h
    exact ⟨_, rfl, rfl, rfl, (collected_placeholders name source).nodup.filter _,
      fun n => mem_missing, pairwise_missing name source values⟩
  identity values hvalues := by
    refine render_eq_ok_iff_substituted.mpr ?_
    rw [String.toList_ofList]
    exact (scanned_segmentsFrom source.toList).substituted_self
      fun n hn => hvalues n (mem_tokenNames.mp hn)

/-- What a value makes together with the text beside it is no token. -/
example : (parse "agents.yaml" "$$\x7bX\x7d\x7bY\x7d").render [("X", "")] = .ok "$\x7bY\x7d" := by
  cbv

end Rollout.Template
