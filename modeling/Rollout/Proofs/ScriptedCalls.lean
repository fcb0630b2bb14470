import Mathlib.Algebra.Ring.Nat
import Mathlib.Data.List.Induction
import Rollout.Script

/-!
# Which expectation answers a call

A script answers a call by the first expectation that is meant for it and has not had its fill, and
one call is all that this expectation has had more (`Rollout.Script.Called`). Over many calls, what
an expectation has had is the number of calls that went to it, so that where a call goes is told by
where the calls before it went (`Rollout.Script.Goes`), without a look at what the script counts:

| open to the call | meant for it | where it goes | the answer |
|---|---|---|---|
| some expectation | | to the first of them | what that one says |
| none | some expectation | nowhere | "called more times than expected" |
| none | none | nowhere | "no expectation found" |

The main statement is `Rollout.Script.accounted_of_fresh`: the calls of a script are *turns* of this
kind, its counts are those of the turns, and so they stay within their limits and add up to the calls
that were answered.
-/

namespace Rollout

/-! ### Expectations -/

namespace Expectation

/-- **An expectation as it is put into a script**: it has answered nothing yet, and it does not say
what a script says of a call that no expectation answers. -/
structure Fresh (e : Expectation) : Prop where
  served : e.served = 0
  response : ∀ text, e.response ≠ .failure (.unexpected text)

/-- **How expectations are prepared**: one begins with any call of a program, and says more of it
step by step. -/
inductive Prepared : Expectation → Prop
  | of (program : String) : Prepared (of program)
  | meantFor {e : Expectation} (h : Prepared e) (pattern : List String → Bool) :
      Prepared { e with pattern }
  | withStdout {e : Expectation} (h : Prepared e) (s : String) : Prepared (e.withStdout s)
  | withStderr {e : Expectation} (h : Prepared e) (s : String) : Prepared (e.withStderr s)
  | withExit {e : Expectation} (h : Prepared e) (n : Int32) : Prepared (e.withExit n)
  | missing {e : Expectation} (h : Prepared e) : Prepared { e with response := .missing }
  | times {e : Expectation} (h : Prepared e) (n : Nat) : Prepared { e with limit := some n }

theorem mapOutput_ne_failure {r : Response} {e : ProcessError} (h : r ≠ .failure e)
    (f : Output → Output) : r.mapOutput f ≠ .failure e := by
  cases r with
  | output o => exact nofun
  | missing => exact nofun
  | failure e' => exact h

/-- Whatever is prepared is fresh. -/
theorem Prepared.fresh {e : Expectation} (h : Prepared e) : e.Fresh := by
  induction h with
  | of program => exact ⟨rfl, nofun⟩
  | meantFor _ pattern ih => exact ⟨ih.served, ih.response⟩
  | withStdout _ s ih => exact ⟨ih.served, fun text => mapOutput_ne_failure (ih.response text) _⟩
  | withStderr _ s ih => exact ⟨ih.served, fun text => mapOutput_ne_failure (ih.response text) _⟩
  | withExit _ n ih => exact ⟨ih.served, fun text => mapOutput_ne_failure (ih.response text) _⟩
  | missing _ ih => exact ⟨ih.served, nofun⟩
  | times _ n ih => exact ⟨ih.served, ih.response⟩

/-- Whether an expectation is meant for a call: the program is the same, and the arguments match. -/
def Meant (e : Expectation) (c : Command) : Prop := e.program = c.program ∧ e.pattern c.args = true

/-- Whether an expectation answers a call: it is meant for it and has not had its fill. -/
def Takes (e : Expectation) (c : Command) : Prop :=
  e.Meant c ∧ ∀ limit, e.limit = some limit → e.served < limit

variable {e : Expectation} {c : Command}

theorem isFor_eq_true_iff : e.isFor c = true ↔ e.Meant c := by
  simp [isFor, Meant]

theorem isSpent_eq_false_iff :
    e.isSpent = false ↔ ∀ limit, e.limit = some limit → e.served < limit := by
  unfold isSpent
  cases e.limit <;> simp

theorem takes_iff : (e.isFor c && !e.isSpent) = true ↔ e.Takes c := by
  rw [Bool.and_eq_true, isFor_eq_true_iff, Bool.not_eq_true', isSpent_eq_false_iff, Takes]

end Expectation

namespace Script

open Expectation

variable {s : Script} {c : Command} {a : Answer} {expectations : List Expectation}

/-! ### One call -/

/-- **What a call comes to**: the first expectation that takes it answers and counts it, or none does
and nothing is counted. The call is recorded in either case. -/
inductive Called (s : Script) (c : Command) : Answer × Script → Prop
  | served {i : Nat} {e : Expectation} (he : s.expectations[i]? = some e) (htakes : e.Takes c)
      (hfirst : ∀ j < i, ∀ b, s.expectations[j]? = some b → ¬ b.Takes c) :
      Called s c (e.response.answer c, ⟨s.expectations.modify i count, s.history ++ [c]⟩)
  | refused (hnone : ∀ e ∈ s.expectations, ¬ e.Takes c) :
      Called s c (.error (refusal c s.expectations), ⟨s.expectations, s.history ++ [c]⟩)

/-- The search for an expectation ends at the first that takes the call, or finds none. -/
theorem serve?_cases (c : Command) (expectations : List Expectation) :
    (∃ i e, expectations[i]? = some e ∧ e.Takes c ∧
      (∀ j < i, ∀ b, expectations[j]? = some b → ¬ b.Takes c) ∧
      serve? c expectations = some (e.response.answer c, expectations.modify i count)) ∨
    (∀ e ∈ expectations, ¬ e.Takes c) ∧ serve? c expectations = none := by
  induction expectations with
  | nil => exact .inr ⟨nofun, rfl⟩
  | cons e rest ih =>
    by_cases htakes : e.Takes c
    · refine .inl ⟨0, e, rfl, htakes, nofun, ?_⟩
      rw [serve?, if_pos (takes_iff.mpr htakes)]
      rfl
    · rw [serve?, if_neg (fun h => htakes (takes_iff.mp h))]
      rcases ih with ⟨i, e', he', htakes', hfirst, hserve⟩ | ⟨hnone, hserve⟩
      · refine .inl ⟨i + 1, e', he', htakes', ?_, by rw [hserve]; rfl⟩
        rintro (_ | j) hj b hb
        · obtain rfl : e = b := Option.some.inj hb
          exact htakes
        · exact hfirst j (Nat.lt_of_succ_lt_succ hj) b hb
      · exact .inr ⟨List.forall_mem_cons.mpr ⟨htakes, hnone⟩, by rw [hserve]; rfl⟩

theorem called_call (s : Script) (c : Command) : Called s c (s.call c) := by
  unfold call
  rcases serve?_cases c s.expectations with ⟨i, e, he, htakes, hfirst, hserve⟩ | ⟨hnone, hserve⟩
  · rw [hserve]
    exact .served he htakes hfirst
  · rw [hserve]
    exact .refused hnone

/-! ### What calls preserve -/

/-- An answer that an expectation has given, as opposed to a refusal of the script. -/
def wasAnswered : Answer → Bool
  | .error (.unexpected _) => false
  | _ => true

/-- The number of calls that were counted. -/
def total (s : Script) : Nat := (s.expectations.map served).sum

/-- **A script in order**: no expectation has answered more calls than it is to, and none speaks for
the script. -/
structure InOrder (s : Script) : Prop where
  limits : ∀ e ∈ s.expectations, ∀ limit, e.limit = some limit → e.served ≤ limit
  responses : ∀ e ∈ s.expectations, ∀ text, e.response ≠ .failure (.unexpected text)

theorem inOrder_ofList (hfresh : ∀ e ∈ expectations, e.Fresh) : (ofList expectations).InOrder where
  limits e he limit _ := by rw [(hfresh e he).served]; exact Nat.zero_le limit
  responses e he := (hfresh e he).response

theorem total_ofList (hfresh : ∀ e ∈ expectations, e.Fresh) : (ofList expectations).total = 0 := by
  have hserved : expectations.map served = List.replicate expectations.length 0 :=
    List.map_eq_replicate_iff.mpr fun e he => (hfresh e he).served
  simp [total, ofList, hserved]

theorem mem_modify_count {i : Nat} {e' : Expectation} (h : e' ∈ expectations.modify i count) :
    e' ∈ expectations ∨ ∃ e, expectations[i]? = some e ∧ e' = e.count := by
  obtain ⟨j, hj⟩ := List.mem_iff_getElem?.mp h
  rw [List.getElem?_modify] at hj
  obtain ⟨b, hb, rfl⟩ := Option.map_eq_some_iff.mp hj
  split
  · rename_i hij
    subst hij
    exact .inr ⟨b, hb, rfl⟩
  · exact .inl (List.mem_of_getElem? hb)

/-- **A call leaves a script in order.** -/
theorem InOrder.call (h : s.InOrder) (c : Command) : (s.call c).2.InOrder := by
  cases hcall : s.call c with
  | mk a s' =>
    have hcalled := called_call s c
    rw [hcall] at hcalled
    cases hcalled with
    | refused => exact ⟨h.limits, h.responses⟩
    | served he htakes =>
      constructor
      · intro e' he'
        rcases mem_modify_count he' with hmem | ⟨e, he'', rfl⟩
        · exact h.limits e' hmem
        · obtain rfl := Option.some.inj (he.symm.trans he'')
          exact htakes.2
      · intro e' he'
        rcases mem_modify_count he' with hmem | ⟨e, he'', rfl⟩
        · exact h.responses e' hmem
        · exact h.responses e (List.mem_of_getElem? he'')

theorem sum_modify_count {i : Nat} {e : Expectation} (h : expectations[i]? = some e) :
    ((expectations.modify i count).map served).sum = (expectations.map served).sum + 1 := by
  induction expectations generalizing i with
  | nil => cases h
  | cons b rest ih =>
    cases i with
    | zero => simp [count]; omega
    | succ i => simp [ih h]; omega

theorem wasAnswered_answer {e : Expectation} (h : ∀ text, e.response ≠ .failure (.unexpected text))
    (c : Command) : wasAnswered (e.response.answer c) = true := by
  cases hr : e.response with
  | output o => rfl
  | missing => rfl
  | failure err =>
    cases err with
    | unexpected text => exact absurd hr (h text)
    | _ => rfl

theorem wasAnswered_refusal (c : Command) (expectations : List Expectation) :
    wasAnswered (.error (refusal c expectations)) = false := by
  unfold refusal
  split <;> rfl

/-- **A call is counted exactly if it is answered.** -/
theorem InOrder.total_call (h : s.InOrder) (c : Command) :
    (s.call c).2.total = s.total + (if wasAnswered (s.call c).1 then 1 else 0) := by
  cases hcall : s.call c with
  | mk a s' =>
    have hcalled := called_call s c
    rw [hcall] at hcalled
    cases hcalled with
    | served he =>
      rw [if_pos (wasAnswered_answer (h.responses _ (List.mem_of_getElem? he)) c)]
      exact sum_modify_count he
    | refused => simp [wasAnswered_refusal, total]

theorem InOrder.after (h : s.InOrder) (calls : List Command) : (s.after calls).InOrder := by
  induction calls generalizing s with
  | nil => exact h
  | cons c rest ih => exact ih (h.call c)

/-- **After any calls, what was counted are the calls that were answered.** -/
theorem InOrder.total_after (h : s.InOrder) (calls : List Command) :
    (s.after calls).total = s.total + (s.answers calls).countP wasAnswered := by
  induction calls generalizing s with
  | nil => rfl
  | cons c rest ih =>
    calc (s.after (c :: rest)).total
        = (s.call c).2.total + ((s.call c).2.answers rest).countP wasAnswered := ih (h.call c)
      _ = s.total + (s.answers (c :: rest)).countP wasAnswered := by
          rw [h.total_call, answers, List.countP_cons]
          omega

/-! ### Turns -/

/-- What became of a call. -/
structure Turn where
  command : Command
  /-- The number of the expectation to which the call went, if it went to one. -/
  place : Option Nat
  answer : Answer

/-- **An expectation is open to a call**, given where the calls before it went: it is meant for the
call, and fewer calls than its limit, if it has one, have gone to it. -/
structure Open (expectations : List Expectation) (past : List (Option Nat)) (c : Command) (i : Nat)
    (e : Expectation) : Prop where
  place : expectations[i]? = some e
  meant : e.Meant c
  limit : ∀ limit, e.limit = some limit → past.count (some i) < limit

/-- **Where a call goes and what it is answered**, given where the calls before it went. -/
inductive Goes (expectations : List Expectation) (past : List (Option Nat)) : Turn → Prop
  | served {c : Command} {i : Nat} {e : Expectation} (hopen : Open expectations past c i e)
      (hfirst : ∀ j < i, ∀ b, ¬ Open expectations past c j b) :
      Goes expectations past ⟨c, some i, e.response.answer c⟩
  | spent {c : Command} (hclosed : ∀ i e, ¬ Open expectations past c i e)
      (hmeant : ∃ e ∈ expectations, e.Meant c) :
      Goes expectations past ⟨c, none, .error (.unexpected
        ("Command '" ++ c.program ++ "' called more times than expected"))⟩
  | unknown {c : Command} (hmeant : ∀ e ∈ expectations, ¬ e.Meant c) :
      Goes expectations past ⟨c, none, .error (.unexpected
        ("No expectation found for command: " ++ c.program ++ " " ++ Text.quotedList c.args))⟩

/-- Expectations, each with the number of calls that have gone to it. -/
def tally (expectations : List Expectation) (past : List (Option Nat)) : List Expectation :=
  expectations.mapIdx fun i e => { e with served := past.count (some i) }

variable {past : List (Option Nat)} {turns : List Turn} {t : Turn} {i : Nat} {e : Expectation}

theorem getElem?_tally (expectations : List Expectation) (past : List (Option Nat)) (i : Nat) :
    (tally expectations past)[i]? =
      expectations[i]?.map fun e => { e with served := past.count (some i) } :=
  List.getElem?_mapIdx

theorem tally_nil (hfresh : ∀ e ∈ expectations, e.Fresh) : tally expectations [] = expectations := by
  refine List.ext_getElem? fun i => ?_
  rw [getElem?_tally]
  cases h : expectations[i]? with
  | none => rfl
  | some e =>
    have hserved := (hfresh e (List.mem_of_getElem? h)).served
    cases e
    cases hserved
    rfl

/-- A call that goes to an expectation changes the count of this one alone. -/
theorem tally_append_some (expectations : List Expectation) (past : List (Option Nat)) (i : Nat) :
    tally expectations (past ++ [some i]) = (tally expectations past).modify i count := by
  refine List.ext_getElem? fun j => ?_
  rw [List.getElem?_modify, getElem?_tally, getElem?_tally, Option.map_eq_map, Option.map_map]
  refine congrArg (expectations[j]?.map ·) (funext fun e => ?_)
  by_cases hij : i = j
  · subst hij
    simp [count]
  · simp [hij]

/-- A call that goes nowhere changes no count. -/
theorem tally_append_none (expectations : List Expectation) (past : List (Option Nat)) :
    tally expectations (past ++ [none]) = tally expectations past := by
  simp [tally]

/-- An expectation is open exactly if it takes the call by its count. -/
theorem takes_tally_iff {b : Expectation} (hb : (tally expectations past)[i]? = some b) :
    b.Takes c ↔ ∃ e, Open expectations past c i e ∧ b.response = e.response := by
  rw [getElem?_tally] at hb
  obtain ⟨e, he, rfl⟩ := Option.map_eq_some_iff.mp hb
  constructor
  · rintro ⟨hmeant, hlimit⟩
    exact ⟨e, ⟨he, hmeant, hlimit⟩, rfl⟩
  · rintro ⟨e', ⟨he', hmeant, hlimit⟩, -⟩
    obtain rfl := Option.some.inj (he.symm.trans he')
    exact ⟨hmeant, hlimit⟩

theorem Open.mem_tally (h : Open expectations past c i e) :
    ∃ b, (tally expectations past)[i]? = some b ∧ b.Takes c :=
  ⟨{ e with served := past.count (some i) }, by rw [getElem?_tally, h.place]; rfl, h.meant, h.limit⟩

/-- Counts say nothing of whom an expectation is meant for. -/
theorem meant_tally_iff (expectations : List Expectation) (past : List (Option Nat)) (c : Command) :
    (∃ b ∈ tally expectations past, b.Meant c) ↔ ∃ e ∈ expectations, e.Meant c := by
  constructor
  · rintro ⟨b, hb, hmeant⟩
    obtain ⟨i, hi⟩ := List.mem_iff_getElem?.mp hb
    rw [getElem?_tally] at hi
    obtain ⟨e, he, rfl⟩ := Option.map_eq_some_iff.mp hi
    exact ⟨e, List.mem_of_getElem? he, hmeant⟩
  · rintro ⟨e, he, hmeant⟩
    obtain ⟨i, hi⟩ := List.mem_iff_getElem?.mp he
    have hb : (tally expectations past)[i]? = some { e with served := past.count (some i) } := by
      rw [getElem?_tally, hi]
      rfl
    exact ⟨_, List.mem_of_getElem? hb, hmeant⟩

/-- A refusal tells whether an expectation is meant for the call. -/
theorem goes_refusal (hclosed : ∀ i e, ¬ Open expectations past c i e) :
    Goes expectations past ⟨c, none, .error (refusal c (tally expectations past))⟩ := by
  unfold refusal
  have hany : ((tally expectations past).any fun e => e.isFor c) = true ↔
      ∃ e ∈ expectations, e.Meant c := by
    rw [← meant_tally_iff expectations past, List.any_eq_true]
    simp only [isFor_eq_true_iff]
  split
  · rename_i hsome
    exact .spent hclosed (hany.mp hsome)
  · rename_i hnone
    exact .unknown fun e he hmeant => hnone (hany.mpr ⟨e, he, hmeant⟩)

/-- **One turn**: where the counts are those of the calls before, a call goes where it should, and
afterwards the counts are those of the calls up to this one. -/
theorem goes_call (hs : s.expectations = tally expectations past) (c : Command) :
    ∃ place, Goes expectations past ⟨c, place, (s.call c).1⟩ ∧
      (s.call c).2 = ⟨tally expectations (past ++ [place]), s.history ++ [c]⟩ := by
  cases hcall : s.call c with
  | mk a s' =>
    have hcalled := called_call s c
    rw [hcall] at hcalled
    cases hcalled with
    | @served i b hb htakes hfirst =>
      rw [hs] at hb
      obtain ⟨e, hopen, hresponse⟩ := (takes_tally_iff hb).mp htakes
      refine ⟨some i, ?_, by rw [hs, tally_append_some]⟩
      rw [hresponse]
      refine .served hopen fun j hj e' hopen' => ?_
      obtain ⟨b', hb', htakes'⟩ := hopen'.mem_tally
      exact hfirst j hj b' (by rw [hs]; exact hb') htakes'
    | refused hnone =>
      rw [hs] at hnone ⊢
      refine ⟨none, goes_refusal fun i e hopen => ?_, by rw [tally_append_none]⟩
      obtain ⟨b, hb, htakes⟩ := hopen.mem_tally
      exact hnone b (List.mem_of_getElem? hb) htakes

/-! ### All turns -/

theorem answers_append (s : Script) (first second : List Command) :
    s.answers (first ++ second) = s.answers first ++ (s.after first).answers second := by
  induction first generalizing s with
  | nil => rfl
  | cons c rest ih => exact congrArg ((s.call c).1 :: ·) (ih (s.call c).2)

/-- **The course of some calls**: each goes where it should, given where those before it went, and
at each point the script holds the calls so far and counts where they went. -/
structure Course (expectations : List Expectation) (turns : List Turn) : Prop where
  goes : ∀ before t after, turns = before ++ t :: after →
    Goes expectations (before.map Turn.place) t
  state : ∀ before after, turns = before ++ after →
    (ofList expectations).after (before.map Turn.command) =
      ⟨tally expectations (before.map Turn.place), before.map Turn.command⟩
  answers : turns.map Turn.answer = (ofList expectations).answers (turns.map Turn.command)

theorem course_nil (hfresh : ∀ e ∈ expectations, e.Fresh) : Course expectations [] where
  goes before t after h := absurd h (by simp)
  state before after h := by
    obtain ⟨rfl, -⟩ := List.append_eq_nil_iff.mp h.symm
    exact congrArg (Script.mk · []) (tally_nil hfresh).symm
  answers := rfl

/-- **A course goes on by one turn.** -/
theorem Course.snoc (h : Course expectations turns)
    (hgoes : Goes expectations (turns.map Turn.place) t)
    (hcall : ((ofList expectations).after (turns.map Turn.command)).call t.command =
      (t.answer, ⟨tally expectations (turns.map Turn.place ++ [t.place]),
        turns.map Turn.command ++ [t.command]⟩)) :
    Course expectations (turns ++ [t]) where
  -- a cut of the longer course is behind its last turn, or is one of the shorter course
  goes before t' after hsplit := by
    rcases List.eq_nil_or_concat after with rfl | ⟨after, last, rfl⟩
    · obtain ⟨rfl, hlast⟩ := List.append_inj' hsplit rfl
      obtain rfl := List.head_eq_of_cons_eq hlast
      exact hgoes
    · have hsplit' : turns ++ [t] = (before ++ t' :: after) ++ [last] := by simpa using hsplit
      exact h.goes before t' after (List.append_inj' hsplit' rfl).1
  state before after hsplit := by
    rcases List.eq_nil_or_concat after with rfl | ⟨after, last, rfl⟩
    · rw [List.append_nil] at hsplit
      subst hsplit
      rw [List.map_append, List.map_append, after_append]
      exact congrArg Prod.snd hcall
    · have hsplit' : turns ++ [t] = (before ++ after) ++ [last] := by simpa using hsplit
      exact h.state before after (List.append_inj' hsplit' rfl).1
  answers := by
    rw [List.map_append, List.map_append, answers_append, h.answers]
    exact congrArg (_ ++ [·]) (congrArg Prod.fst hcall).symm

/-- **Any calls of a fresh script have a course.** -/
theorem exists_course (hfresh : ∀ e ∈ expectations, e.Fresh) (calls : List Command) :
    ∃ turns, turns.map Turn.command = calls ∧ Course expectations turns := by
  induction calls using List.reverseRecOn with
  | nil => exact ⟨[], rfl, course_nil hfresh⟩
  | append_singleton calls c ih =>
    obtain ⟨turns, rfl, hcourse⟩ := ih
    have hstate := hcourse.state turns [] (List.append_nil turns).symm
    obtain ⟨place, hgoes, hnext⟩ := goes_call (congrArg Script.expectations hstate) c
    refine ⟨turns ++ [⟨c, place, _⟩], by simp, hcourse.snoc hgoes ?_⟩
    refine Prod.ext rfl (hnext.trans ?_)
    rw [hstate]

/-! ### What is said of calls that nobody answers -/

/-- Whether a text ends by saying that a call came once too often. -/
def SaysSpent (text : String) : Prop := "called more times than expected".toList <:+ text.toList

theorem saysSpent_spent (program : String) :
    SaysSpent ("Command '" ++ program ++ "' called more times than expected") := by
  rw [SaysSpent, String.toList_append]
  exact List.suffix_append_of_suffix (by decide)

/-- Arguments end with a bracket when they are shown. -/
theorem not_saysSpent_unknown (c : Command) :
    ¬ SaysSpent ("No expectation found for command: " ++ c.program ++ " " ++
      Text.quotedList c.args) := by
  rintro ⟨front, hfront⟩
  have hlast := congrArg List.getLast? hfront
  rw [Text.quotedList, ← String.append_assoc, String.toList_append, List.getLast?_append,
    List.getLast?_append] at hlast
  -- one text ends in a letter, the other in a bracket, and what is in front of them does not matter
  exact absurd (Option.some.inj hlast) (by decide : 'd' ≠ ']')

/-- **A refusal says that a call came once too often exactly if an expectation is meant for it.** -/
theorem Goes.saysSpent_iff (h : Goes expectations past t)
    (hresponses : ∀ e ∈ expectations, ∀ text, e.response ≠ .failure (.unexpected text))
    {text : String} (ht : t.answer = .error (.unexpected text)) :
    SaysSpent text ↔ ∃ e ∈ expectations, e.Meant t.command := by
  cases h with
  | @served c i e hopen =>
    have hanswered := wasAnswered_answer (hresponses e (List.mem_of_getElem? hopen.place)) c
    rw [show e.response.answer c = .error (.unexpected text) from ht] at hanswered
    cases hanswered
  | spent _ hmeant =>
    cases ht
    exact iff_of_true (saysSpent_spent _) hmeant
  | unknown hmeant =>
    cases ht
    exact iff_of_false (not_saysSpent_unknown _) fun ⟨e, he, h⟩ => hmeant e he h

/-! ### The account -/

/-- **An account of the calls of a script**: the course that they took, what was said of those that
were refused, and what the counts come to in the end. -/
structure Accounted (expectations : List Expectation) (calls : List Command)
    (turns : List Turn) : Prop extends Course expectations turns where
  commands : turns.map Turn.command = calls
  history : ((ofList expectations).after calls).history = calls
  refusals : ∀ t ∈ turns, ∀ text, t.answer = .error (.unexpected text) →
    (SaysSpent text ↔ ∃ e ∈ expectations, e.Meant t.command)
  limits : ∀ e ∈ ((ofList expectations).after calls).expectations, ∀ limit,
    e.limit = some limit → e.served ≤ limit
  total : (((ofList expectations).after calls).expectations.map served).sum =
    ((ofList expectations).answers calls).countP wasAnswered

/-- **The calls of a script can be accounted for**: each is recorded and goes to the first
expectation that is open to it, which alone counts it, or is refused in words that fit; no expectation
answers more calls than it is to, and the counts add up to the calls that were answered. -/
theorem accounted_of_fresh (hfresh : ∀ e ∈ expectations, e.Fresh) (calls : List Command) :
    ∃ turns, Accounted expectations calls turns := by
  obtain ⟨turns, hcommands, hcourse⟩ := exists_course hfresh calls
  have horder := inOrder_ofList hfresh
  refine ⟨turns, hcourse, hcommands, history_after _ calls, ?_, (horder.after calls).limits, ?_⟩
  · intro t ht text hanswer
    obtain ⟨before, after, hsplit⟩ := List.append_of_mem ht
    exact (hcourse.goes before t after hsplit).saysSpent_iff horder.responses hanswer
  · have htotal := horder.total_after calls
    rwa [total_ofList hfresh, Nat.zero_add] at htotal

/-! ### A rehearsal -/

/-- One look at the cluster, then two more calls of its tool, and a tool that is not there. -/
def rehearsal : List Expectation :=
  [{ (of "kubectl").withStdout "first" with
      pattern := (·.head? == some "get"), limit := some 1 },
    { of "kubectl" with limit := some 2 },
    { of "docker" with response := .missing }]

theorem prepared_rehearsal : ∀ e ∈ rehearsal, e.Prepared := by
  simp only [rehearsal, List.forall_mem_cons]
  exact ⟨(((Prepared.of "kubectl").withStdout "first").meantFor (·.head? == some "get")).times 1,
    (Prepared.of "kubectl").times 2, (Prepared.of "docker").missing, nofun⟩

/-- Calls of which two come to nothing: one more than is expected, and one of an unknown program. -/
def rehearsalCalls : List Command :=
  [.of "kubectl" ["get", "pods"], .of "kubectl" ["get", "pods"], .of "kubectl" ["apply"],
    .of "kubectl" ["get", "pods"], .of "docker" ["ps"], .of "helm" []]

/-- The second look at the cluster goes to the second expectation, the first being spent. -/
theorem accounted_rehearsal : (∀ e ∈ rehearsal, e.Fresh) ∧
    ((ofList rehearsal).after rehearsalCalls).expectations.map served = [1, 2, 1] ∧
    ∃ turns, Accounted rehearsal rehearsalCalls turns :=
  have hfresh : ∀ e ∈ rehearsal, e.Fresh := fun e he => (prepared_rehearsal e he).fresh
  ⟨hfresh, by decide, accounted_of_fresh hfresh rehearsalCalls⟩

end Script

end Rollout
